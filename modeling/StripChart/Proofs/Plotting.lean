import StripChart.CommandLine
import StripChart.Proofs.Describing

/-!
# Channels that are asked for on the command line

Each channel to plot is given as one text, its tab and its name parted by the first colon. The
texts are taken in order. A channel is added to the first entry of its tab, or gets an entry of
its own behind all others, where later channels of the same tab find it. So the list that is
searched grows while it is searched, and what becomes of a text depends on all texts before it.

Still the outcome can be read off the two lists as they are at the start (`Options.laid`): an
entry takes all channels of its tab at once and leaves none to the entries behind it
(`Options.extend`), and of what nobody has taken each tab has one entry. The fact that carries this
is that it makes no difference whether the first text is laid over the entries with the others or
before them (`Options.laid_addPlot`). That all that was asked for is plotted in the end
(`Options.apply_plots`) then follows from what a config says of its tabs, by looking for an entry
that has the channel.
-/

namespace StripChart

/-! ### Texts that are parted by a colon -/

section Split

variable {c : Char} {text : String}

/-- A text is parted where the character comes first. -/
theorem splitAtFirst_of_append {before after : String} (h : c ∉ before.toList)
    (htext : text.toList = before.toList ++ c :: after.toList) :
    splitAtFirst c text = (before, some after) := by
  have hbefore : ∀ d ∈ before.toList, (d != c) = true := by
    intro d hmem
    exact bne_iff_ne.2 fun heq => h (heq ▸ hmem)
  rw [splitAtFirst, htext, List.dropWhile_append_of_pos hbefore,
    List.takeWhile_append_of_pos hbefore, List.dropWhile_cons_of_neg (by simp),
    List.takeWhile_cons_of_neg (by simp), List.append_nil]
  simp

/-- A text without the character stays whole. -/
theorem splitAtFirst_of_not_mem (h : c ∉ text.toList) : splitAtFirst c text = (text, none) := by
  have hnil : text.toList.dropWhile (· != c) = [] :=
    List.dropWhile_eq_nil_iff.2 fun d hmem => bne_iff_ne.2 fun heq => h (heq ▸ hmem)
  rw [splitAtFirst, hnil]

end Split

namespace Options

/-- A channel to plot as it is given: the tab, a colon, the channel. -/
def plotText (plot : String × String) : String :=
  plot.1 ++ ":" ++ plot.2

theorem toList_plotText (plot : String × String) :
    (plotText plot).toList = plot.1.toList ++ ':' :: plot.2.toList := by
  simp [plotText]

/-- A text with a colon gives a tab and a channel, the tab without a colon. -/
theorem exists_eq_plotText {text : String} (h : ':' ∈ text.toList) :
    ∃ plot : String × String, text = plotText plot ∧ ':' ∉ plot.1.toList := by
  obtain ⟨before, after, hsplit, hbefore⟩ := List.eq_append_cons_of_mem h
  refine ⟨(String.ofList before, String.ofList after), String.toList_inj.1 ?_, ?_⟩
  · rw [toList_plotText, String.toList_ofList, String.toList_ofList, hsplit]
  · rwa [String.toList_ofList]

theorem exists_eq_map_plotText {texts : List String} (h : ∀ text ∈ texts, ':' ∈ text.toList) :
    ∃ plots : List (String × String), texts = plots.map plotText ∧
      ∀ plot ∈ plots, ':' ∉ plot.1.toList := by
  induction texts with
  | nil => exact ⟨[], rfl, List.forall_mem_nil _⟩
  | cons text rest ih =>
    obtain ⟨htext, hrest⟩ := List.forall_mem_cons.1 h
    obtain ⟨plot, rfl, hplot⟩ := exists_eq_plotText htext
    obtain ⟨plots, rfl, hplots⟩ := ih hrest
    exact ⟨plot :: plots, rfl, List.forall_mem_cons.2 ⟨hplot, hplots⟩⟩

/-! ### What the texts make of the entries -/

/-- The channels that are wanted on a tab, in the order in which they are given. -/
def wantedOn (plots : List (String × String)) (tab : String) : List String :=
  (plots.filter (·.1 == tab)).map Prod.snd

/-- The entry with all channels added that are wanted on its tab. -/
def withWanted (plots : List (String × String)) (entry : TabSettings) : TabSettings :=
  { entry with channels := entry.channels ++ wantedOn plots entry.name }

/-- The entries with the wanted channels added. What one entry has taken is not left to the
others. -/
def extend (plots : List (String × String)) : List TabSettings → List TabSettings
  | [] => []
  | first :: rest =>
    withWanted plots first :: extend (plots.filter fun plot => plot.1 != first.name) rest

/-- The tabs that are wanted and have no entry, each once, in the order in which they are given
first. -/
def missing (plots : List (String × String)) (entries : List TabSettings) : List String :=
  ((plots.map Prod.fst).filter (· ∉ entries.map TabSettings.name)).eraseDups

theorem nodup_eraseDups (names : List String) : names.eraseDups.Nodup := by
  cases names with
  | nil => simp
  | cons first rest =>
    rw [List.eraseDups_cons, List.nodup_cons]
    exact ⟨by simp, nodup_eraseDups _⟩
termination_by names.length
decreasing_by exact Nat.lt_succ_of_le (List.length_filter_le _ _)

theorem mem_missing_iff {plots : List (String × String)} {entries : List TabSettings}
    {tab : String} : tab ∈ missing plots entries
      ↔ tab ∉ entries.map TabSettings.name ∧ ∃ plot ∈ plots, plot.1 = tab := by
  simp only [missing, List.mem_eraseDups, List.mem_filter, List.mem_map, decide_eq_true_eq]
  exact and_comm

theorem nodup_missing (plots : List (String × String)) (entries : List TabSettings) :
    (missing plots entries).Nodup :=
  nodup_eraseDups _

/-- The entry of a tab that had none; the first of all entries is shown. -/
def newEntry (plots : List (String × String)) (entries : List TabSettings) (tab : String) :
    TabSettings where
  name := tab
  channels := wantedOn plots tab
  capacity := none
  shown := entries.isEmpty && (missing plots entries).head? == some tab

/-- **The entries with the texts laid over them.** -/
def laid (plots : List (String × String)) (entries : List TabSettings) : List TabSettings :=
  extend plots entries ++ (missing plots entries).map (newEntry plots entries)

section Wanted

variable {plots : List (String × String)} {tab other channel : String}

theorem wantedOn_cons_self :
    wantedOn ((tab, channel) :: plots) tab = channel :: wantedOn plots tab := by
  simp [wantedOn]

theorem wantedOn_cons_of_ne (h : other ≠ tab) :
    wantedOn ((tab, channel) :: plots) other = wantedOn plots other := by
  simp [wantedOn, h.symm]

/-- Of the texts that are kept, those for a kept tab are wanted as before. -/
theorem wantedOn_filter (plots : List (String × String)) (keep : String → Bool) (tab : String) :
    wantedOn (plots.filter fun plot => keep plot.1) tab
      = if keep tab then wantedOn plots tab else [] := by
  rw [wantedOn, List.filter_filter, wantedOn]
  cases hkeep : keep tab with
  | true =>
    refine congrArg (List.map Prod.snd) (List.filter_congr fun plot _ => ?_)
    by_cases hname : plot.1 = tab <;> simp [hname, hkeep]
  | false =>
    refine List.map_eq_nil_iff.2 (List.filter_eq_nil_iff.2 fun plot _ hboth => ?_)
    obtain ⟨hname, hkept⟩ := Bool.and_eq_true_iff.1 hboth
    rw [eq_of_beq hname, hkeep] at hkept
    cases hkept

theorem mem_wantedOn {plot : String × String} (h : plot ∈ plots) :
    plot.2 ∈ wantedOn plots plot.1 :=
  List.mem_map.2 ⟨plot, List.mem_filter.2 ⟨h, beq_self_eq_true _⟩, rfl⟩

end Wanted

variable {plots : List (String × String)} {entries : List TabSettings} {tab channel : String}

theorem length_extend (plots : List (String × String)) (entries : List TabSettings) :
    (extend plots entries).length = entries.length := by
  induction entries generalizing plots with
  | nil => rfl
  | cons first rest ih => rw [extend, List.length_cons, ih, List.length_cons]

@[simp] theorem extend_nil (entries : List TabSettings) : extend [] entries = entries := by
  induction entries with
  | nil => rfl
  | cons first rest ih => simp [extend, ih, withWanted, wantedOn]

/-- Entries in front take what they want and leave the rest. -/
theorem extend_append (plots : List (String × String)) (front back : List TabSettings) :
    extend plots (front ++ back)
      = extend plots front
        ++ extend (plots.filter fun plot => plot.1 ∉ front.map TabSettings.name) back := by
  induction front generalizing plots with
  | nil => simp [extend]
  | cons first rest ih =>
    rw [List.cons_append, extend, ih, extend, List.cons_append, List.filter_filter]
    congr 3
    refine List.filter_congr fun plot _ => ?_
    by_cases hname : plot.1 = first.name <;> simp [hname]

/-- **The entry at a place** has the wanted channels added if no entry in front of it has its
name, and is as it was otherwise. -/
theorem getElem?_extend (plots : List (String × String)) (entries : List TabSettings)
    (place : Nat) :
    (extend plots entries)[place]? = entries[place]?.map fun entry =>
      if entry.name ∈ (entries.take place).map TabSettings.name then entry
      else withWanted plots entry := by
  induction entries generalizing plots place with
  | nil => rfl
  | cons first rest ih =>
    cases place with
    | zero => simp [extend]
    | succ place =>
      rw [extend, List.getElem?_cons_succ, ih, List.getElem?_cons_succ, List.take_succ_cons,
        List.map_cons]
      refine congrFun (congrArg Option.map (funext fun entry => ?_)) _
      have hleft := wantedOn_filter plots (· != first.name) entry.name
      by_cases hname : entry.name = first.name
      · -- the first entry has taken all that is wanted on this one
        rw [if_neg (by rw [hname]; simp)] at hleft
        rw [if_pos (List.mem_cons.2 (.inl hname)), withWanted, hleft, List.append_nil, ite_self]
      · rw [if_pos (bne_iff_ne.2 hname)] at hleft
        rw [withWanted, hleft, ← withWanted]
        simp only [List.mem_cons, or_iff_right hname]

/-- A text whose tab has no entry goes to none. -/
theorem extend_cons_of_not_mem (h : tab ∉ entries.map TabSettings.name) :
    extend ((tab, channel) :: plots) entries = extend plots entries := by
  refine List.ext_getElem? fun place => ?_
  rw [getElem?_extend, getElem?_extend]
  refine Option.map_congr fun entry hentry => ?_
  have hne : entry.name ≠ tab := by
    rintro rfl
    exact h (List.mem_map_of_mem (List.mem_of_getElem? hentry))
  rw [withWanted, withWanted, wantedOn_cons_of_ne hne]

/-! ### One text after the other -/

/-- A channel can be added just if its tab has an entry. -/
theorem addChannel?_eq_none_iff :
    addChannel? tab channel entries = none ↔ tab ∉ entries.map TabSettings.name := by
  induction entries with
  | nil => simp [addChannel?]
  | cons first rest ih =>
    rw [addChannel?]
    by_cases hname : first.name = tab
    · simp [hname]
    · rw [if_neg hname, Option.map_eq_none_iff, ih]
      simp [Ne.symm hname]

theorem names_of_addChannel? {after : List TabSettings}
    (h : addChannel? tab channel entries = some after) :
    after.map TabSettings.name = entries.map TabSettings.name := by
  induction entries generalizing after with
  | nil => cases h
  | cons first rest ih =>
    rw [addChannel?] at h
    split at h
    · obtain rfl := Option.some.inj h
      rfl
    · obtain ⟨others, hothers, rfl⟩ := Option.map_eq_some_iff.1 h
      rw [List.map_cons, List.map_cons, ih hothers]

/-- A channel that is added to an entry is the first of those that are wanted there. -/
theorem extend_addChannel? {after : List TabSettings}
    (h : addChannel? tab channel entries = some after) :
    extend plots after = extend ((tab, channel) :: plots) entries := by
  induction entries generalizing plots after with
  | nil => cases h
  | cons first rest ih =>
    rw [addChannel?] at h
    split at h
    · rename_i hname
      subst hname
      obtain rfl := Option.some.inj h
      simp [extend, withWanted, wantedOn_cons_self]
    · rename_i hname
      obtain ⟨others, hothers, rfl⟩ := Option.map_eq_some_iff.1 h
      rw [extend, extend, ih hothers, List.filter_cons_of_pos (by simp [Ne.symm hname])]
      simp only [withWanted, wantedOn_cons_of_ne hname]

/-- A text whose tab has an entry may be laid over the entries before the others. -/
theorem laid_of_addChannel? {after : List TabSettings}
    (h : addChannel? tab channel entries = some after) :
    laid plots after = laid ((tab, channel) :: plots) entries := by
  have hnames := names_of_addChannel? h
  have hthere : tab ∈ entries.map TabSettings.name := by
    by_contra hnot
    rw [addChannel?_eq_none_iff.2 hnot] at h
    cases h
  have hmissing : missing ((tab, channel) :: plots) entries = missing plots after := by
    rw [missing, missing, hnames, List.map_cons,
      List.filter_cons_of_neg (by simpa using hthere)]
  have hempty : after.isEmpty = entries.isEmpty := by
    rw [← List.isEmpty_map (f := TabSettings.name), hnames, List.isEmpty_map]
  rw [laid, laid, extend_addChannel? h, hmissing]
  refine congrArg _ (List.map_congr_left fun name hname => ?_)
  have hne : name ≠ tab := by
    rintro rfl
    exact (mem_missing_iff.1 hname).1 (hnames ▸ hthere)
  rw [newEntry, newEntry, wantedOn_cons_of_ne hne, hmissing, hempty]

/-- So may a text whose tab has no entry: its entry is the last of all then, and the first of
those that were missing. -/
theorem laid_of_not_mem {after : List TabSettings} (h : tab ∉ entries.map TabSettings.name)
    (hafter : after = entries ++ [⟨tab, [channel], none, entries.isEmpty⟩]) :
    laid plots after = laid ((tab, channel) :: plots) entries := by
  have hmissing : missing ((tab, channel) :: plots) entries = tab :: missing plots after := by
    rw [missing, List.map_cons, List.filter_cons_of_pos (by exact decide_eq_true h),
      List.eraseDups_cons, List.filter_filter, missing, hafter]
    congr 3
    funext name
    by_cases hname : name = tab <;> simp [hname]
  have hothers : ∀ name ∈ missing plots after,
      newEntry plots after name = newEntry ((tab, channel) :: plots) entries name := by
    intro name hname
    have hne : name ≠ tab := by
      rintro rfl
      exact (mem_missing_iff.1 hname).1 (by simp [hafter])
    have hnotFirst : (some tab == some name) = false := by simp [hne.symm]
    rw [newEntry, newEntry, wantedOn_cons_of_ne hne, hmissing, List.head?_cons, hnotFirst,
      Bool.and_false, hafter]
    simp
  have hlast : extend (plots.filter fun plot => plot.1 ∉ entries.map TabSettings.name)
      [⟨tab, [channel], none, entries.isEmpty⟩]
      = [newEntry ((tab, channel) :: plots) entries tab] := by
    have hleft := wantedOn_filter plots (fun name => name ∉ entries.map TabSettings.name) tab
    rw [if_pos (decide_eq_true h)] at hleft
    rw [extend, extend, withWanted, hleft, newEntry, hmissing, wantedOn_cons_self]
    simp
  rw [laid, laid, hmissing, List.map_cons, ← List.map_congr_left hothers,
    extend_cons_of_not_mem h, hafter, extend_append, hlast, List.append_assoc,
    List.singleton_append]

/-- **The first text** may be laid over the entries before the others. -/
theorem laid_addPlot (tab channel : String) (plots : List (String × String))
    (entries : List TabSettings) :
    laid plots (addPlot tab channel entries) = laid ((tab, channel) :: plots) entries := by
  rcases hadd : addChannel? tab channel entries with - | after
  · rw [addPlot, hadd, Option.getD_none, laid_of_not_mem (addChannel?_eq_none_iff.1 hadd) rfl]
  · rw [addPlot, hadd, Option.getD_some, laid_of_addChannel? hadd]

/-- **All texts**, one after the other, make what they make at once. -/
theorem addPlots_map_plotText (h : ∀ plot ∈ plots, ':' ∉ plot.1.toList)
    (entries : List TabSettings) :
    addPlots (plots.map plotText) entries = .ok (laid plots entries) := by
  induction plots generalizing entries with
  | nil => simp [addPlots, laid, missing]
  | cons plot rest ih =>
    obtain ⟨hplot, hrest⟩ := List.forall_mem_cons.1 h
    rw [List.map_cons, addPlots, splitAtFirst_of_append hplot (toList_plotText plot)]
    dsimp only
    rw [ih hrest, laid_addPlot]

/-- **A text without a colon** ends it, and the first one is reported. -/
theorem addPlots_eq_error {texts : List String} {text : String}
    (h : texts.find? (':' ∉ ·.toList) = some text) (entries : List TabSettings) :
    addPlots texts entries = .error (.noTab text) := by
  induction texts generalizing entries with
  | nil => cases h
  | cons first rest ih =>
    by_cases hfirst : ':' ∈ first.toList
    · rw [List.find?_cons_of_neg (by simpa using hfirst)] at h
      obtain ⟨plot, rfl, hplot⟩ := exists_eq_plotText hfirst
      rw [addPlots, splitAtFirst_of_append hplot (toList_plotText plot)]
      exact ih h _
    · rw [List.find?_cons_of_pos (by simpa using hfirst)] at h
      obtain rfl := Option.some.inj h
      rw [addPlots, splitAtFirst_of_not_mem hfirst]

/-! ### What has become of the entries -/

/-- **The wanted channels are added**: of each tab to its first entry, and for tabs that had none
there are new entries at the end. -/
structure IsLaid (plots : List (String × String)) (entries after : List TabSettings) : Prop where
  /-- The entries that there were are in their places, and the first of a tab has the channels
  that are wanted behind its own. -/
  kept {place : Nat} {entry : TabSettings} (h : entries[place]? = some entry) :
    after[place]? = some (if entry.name ∈ (entries.take place).map TabSettings.name then entry
      else { entry with channels := entry.channels ++ wantedOn plots entry.name })
  /-- Behind them there is one entry for each tab that had none. -/
  names_added : (after.drop entries.length).map TabSettings.name = missing plots entries
  /-- It has the wanted channels and no capacity, and is shown if it is the first of all. -/
  added {place : Nat} {entry : TabSettings} (hplace : entries.length ≤ place)
    (h : after[place]? = some entry) : entry.channels = wantedOn plots entry.name ∧
      entry.capacity = none ∧ (entry.shown = true ↔ place = 0)

theorem isLaid_laid (plots : List (String × String)) (entries : List TabSettings) :
    IsLaid plots entries (laid plots entries) := by
  refine ⟨fun {place entry} h => ?_, ?_, fun {place entry} hplace h => ?_⟩
  · have hplace : place < (extend plots entries).length :=
      length_extend plots entries ▸ (List.getElem?_eq_some_iff.1 h).1
    rw [laid, List.getElem?_append_left hplace, getElem?_extend, h, Option.map_some, withWanted]
  · rw [laid, ← length_extend plots entries, List.drop_left, List.map_map]
    exact List.map_id _
  · rw [laid, List.getElem?_append_right (by rwa [length_extend]), length_extend,
      List.getElem?_map] at h
    obtain ⟨name, hname, rfl⟩ := Option.map_eq_some_iff.1 h
    refine ⟨rfl, rfl, ?_⟩
    have hfirst : (missing plots entries).head? = some name ↔ place - entries.length = 0 := by
      rw [List.head?_eq_getElem?, ← hname, eq_comm]
      exact List.getElem?_inj (List.getElem?_eq_some_iff.1 hname).1 (nodup_missing plots entries)
    rw [newEntry, Bool.and_eq_true, beq_iff_eq, hfirst, List.isEmpty_iff_length_eq_zero]
    omega

/-- **All that was asked for** is in some entry afterwards. -/
theorem IsLaid.exists_entry {after : List TabSettings} (h : IsLaid plots entries after)
    {plot : String × String} (hplot : plot ∈ plots) :
    ∃ entry ∈ after, entry.name = plot.1 ∧ plot.2 ∈ entry.channels := by
  have hwanted := mem_wantedOn hplot
  by_cases hthere : plot.1 ∈ entries.map TabSettings.name
  · -- the first entry of the tab has taken it
    obtain ⟨front, back, hnames, hfront⟩ := List.eq_append_cons_of_mem hthere
    have hplace : (entries.map TabSettings.name)[front.length]? = some plot.1 := by simp [hnames]
    rw [List.getElem?_map] at hplace
    obtain ⟨entry, hentry, hname⟩ := Option.map_eq_some_iff.1 hplace
    have hkept := h.kept hentry
    rw [List.map_take, hnames, List.take_left, if_neg (hname ▸ hfront)] at hkept
    refine ⟨_, List.mem_of_getElem? hkept, hname, List.mem_append_right _ ?_⟩
    rwa [hname]
  · have hadded : plot.1 ∈ (after.drop entries.length).map TabSettings.name := by
      rw [h.names_added, mem_missing_iff]
      exact ⟨hthere, plot, hplot, rfl⟩
    obtain ⟨entry, hentry, hname⟩ := List.mem_map.1 hadded
    obtain ⟨place, hplace⟩ := List.getElem?_of_mem hentry
    rw [List.getElem?_drop] at hplace
    obtain ⟨hchannels, -⟩ := h.added (Nat.le_add_right _ place) hplace
    refine ⟨entry, List.mem_of_mem_drop hentry, hname, ?_⟩
    rwa [hchannels, hname]

/-! ### What the command line makes of a config -/

variable {options : Options} {config final : Config}

/-- The config with what the options say laid over it, and with these entries. -/
def overlay (options : Options) (config : Config) (tabs : List TabSettings) : Config :=
  { config with
    url := options.url.getD config.url
    defaultCapacity := options.capacity.getD config.defaultCapacity
    reassemblePartialFrames := config.reassemblePartialFrames && !options.strictFraming
    tabs }

section Apply

variable {tabs : List TabSettings} (h : addPlots options.plots config.tabs = .ok tabs)

include h

theorem apply_of_ok (hcheck : (options.overlay config tabs).check = .ok ()) :
    options.apply config = .ok (options.overlay config tabs) := by
  simp only [apply, h, bind, Except.bind]
  rw [overlay] at hcheck
  rw [hcheck]
  rfl

theorem apply_of_error {error : ConfigError}
    (hcheck : (options.overlay config tabs).check = .error error) :
    options.apply config = .error (.config error) := by
  simp only [apply, h, bind, Except.bind]
  rw [overlay] at hcheck
  rw [hcheck]
  rfl

/-- A config comes out if it can be used. -/
theorem apply_eq_ok_iff : options.apply config = .ok final
    ↔ final = options.overlay config tabs ∧ final.check = .ok () := by
  constructor
  · intro hfinal
    cases hcheck : (options.overlay config tabs).check with
    | ok =>
      obtain rfl := Except.ok.inj ((apply_of_ok h hcheck).symm.trans hfinal)
      exact ⟨rfl, hcheck⟩
    | error error => cases (apply_of_error h hcheck).symm.trans hfinal
  · rintro ⟨rfl, hcheck⟩
    exact apply_of_ok h hcheck

end Apply

/-- **All that is asked for on the command line is plotted.**

* If each text has a colon, a tab and a channel stand before and behind the first one of it. The
  channels are added to the entries of the config: of each tab to its first entry, and for tabs
  that had none there are new entries at the end.
* A config comes out if it can be used, and it describes a registry in which all the channels
  are selected.
* If some text has no colon, the first such text is reported.

An array of any capacity is taken to be had (`Circle.new`). A config that comes out may still ask
for capacities at which none can be, of two to the power of 59 and more: `Representable` in
`StripChart.Proofs.Capacities` tells them apart. -/
theorem apply_plots (options : Options) (config : Config) :
    ((∀ text ∈ options.plots, ':' ∈ text.toList) →
      ∃ plots : List (String × String), options.plots = plots.map plotText ∧
        (∀ plot ∈ plots, ':' ∉ plot.1.toList) ∧
        ∃ tabs, addPlots options.plots config.tabs = .ok tabs ∧ IsLaid plots config.tabs tabs ∧
          (missing plots config.tabs).Nodup ∧
          (∀ final, options.apply config = .ok final
            ↔ final = options.overlay config tabs ∧ final.check = .ok ()) ∧
          ∀ final, options.apply config = .ok final →
            ∀ palette, ∃ registry, Registry.ofConfig? final palette = .ok registry ∧
              ∀ plot ∈ plots, ∃ tab, registry.tabs.find? plot.1 = some tab ∧
                tab.channels.contains plot.2 = true) ∧
    ((∃ text ∈ options.plots, ':' ∉ text.toList) →
      ∃ text, options.plots.find? (':' ∉ ·.toList) = some text ∧
        options.apply config = .error (.noTab text)) := by
  refine ⟨fun hcolons => ?_, fun hbare => ?_⟩
  · obtain ⟨plots, htexts, hplots⟩ := exists_eq_map_plotText hcolons
    have htabs : addPlots options.plots config.tabs = .ok (laid plots config.tabs) := by
      rw [htexts, addPlots_map_plotText hplots]
    have hlaid := isLaid_laid plots config.tabs
    refine ⟨plots, htexts, hplots, _, htabs, hlaid, nodup_missing _ _,
      fun final => apply_eq_ok_iff htabs, fun final hfinal palette => ?_⟩
    obtain ⟨rfl, hcheck⟩ := (apply_eq_ok_iff htabs).1 hfinal
    obtain ⟨registry, hregistry⟩ :=
      Registry.exists_ofConfig?_eq_ok (Config.check_eq_ok_iff.1 hcheck) palette
    refine ⟨registry, hregistry, fun plot hplot => ?_⟩
    obtain ⟨entry, hentry, hname, hchannel⟩ := hlaid.exists_entry hplot
    rw [← hname]
    exact (Registry.isSetBy_ofConfig? hregistry).exists_find? hentry hchannel
  · obtain ⟨text, htext⟩ := Option.isSome_iff_exists.1
      (List.find?_isSome.2 (hbare.imp fun text h => ⟨h.1, decide_eq_true h.2⟩))
    refine ⟨text, htext, ?_⟩
    rw [apply, addPlots_eq_error htext]
    rfl

/-- Texts with two colons, with nothing but a colon, and without one. -/
def mixedPlots (last : String) : Options where
  plots := ["power:volts", "heat:in:out", ":", "power:amps", last]

def doubledTabs : Config where
  tabs := [⟨"power", ["watts"], some 8, false⟩, ⟨"power", ["ohms"], none, true⟩]

theorem apply_plots_mixedPlots :
    (∃ final registry tab, (mixedPlots "heat:").apply doubledTabs = .ok final ∧
      final.tabs = [⟨"power", ["watts", "volts", "amps"], some 8, false⟩,
        ⟨"power", ["ohms"], none, true⟩, ⟨"heat", ["in:out", ""], none, false⟩,
        ⟨"", [""], none, false⟩] ∧
      Registry.ofConfig? final ⟨0⟩ = .ok registry ∧ registry.tabs.find? "heat" = some tab ∧
      tab.channels.contains "in:out" = true) ∧
    (mixedPlots "heat").apply doubledTabs = .error (.noTab "heat") := by
  refine ⟨?_, ?_⟩
  · obtain ⟨plots, htexts, hplots, tabs, htabs, -, -, happly, hregistry⟩ :=
      (apply_plots (mixedPlots "heat:") doubledTabs).1 (by decide)
    obtain rfl := Except.ok.inj htabs
    have hfinal := (happly _).2 ⟨rfl, rfl⟩
    obtain ⟨registry, hofConfig, hplotted⟩ := hregistry _ hfinal ⟨0⟩
    have htext : "heat:in:out" ∈ plots.map plotText := htexts ▸ by decide
    obtain ⟨plot, hplot, hheat⟩ := List.mem_map.1 htext
    have hsplit := splitAtFirst_of_append (hplots plot hplot) (toList_plotText plot)
    rw [hheat] at hsplit
    obtain ⟨htab, hchannel⟩ := Prod.mk.inj hsplit
    obtain ⟨tab, hfind, hcontains⟩ := hplotted plot hplot
    rw [← htab] at hfind
    rw [← Option.some.inj hchannel] at hcontains
    exact ⟨_, registry, tab, hfinal, rfl, hofConfig, hfind, hcontains⟩
  · obtain ⟨text, htext, herror⟩ := (apply_plots (mixedPlots "heat") doubledTabs).2 (by decide)
    obtain rfl := Option.some.inj htext
    exact herror

end Options

end StripChart
