import Mathlib.Data.List.Induction
import StripChart.Proofs.Requests

/-!
# No change of a picture is lost

Between one taking of pictures and the next anything may be asked of a registry, and then only
the dirty tabs are looked at. So a tab must not be clean unless the picture that was taken of
it last still is the one that would be drawn now. That is so after every row of requests
(`Registry.lastTaken_of_run`), and "the last picture" is meant in earnest: the one that was
taken at a point from which on the tab has been there all the time, and of which no other
picture has been taken since (`Registry.LastTaken`).

One fact about requests carries this. No request but the taking of pictures makes a tab clean:
a tab that is clean after it was there before, and was the same (`Registry.find?_of_serve`).
A tab that was taken away and made again starts out dirty, so a picture of the old one never
counts for the new.
-/

namespace StripChart

/-- A clean tab is not among the tabs that a marked change has put in. -/
theorem Marked.find?_of_clean {tabs after : ByName Tab} (h : Marked tabs after) {name : String}
    {tab : Tab} (hfind : after.find? name = some tab) (hclean : tab.dirty = false) :
    tabs.find? name = some tab := by
  induction h with
  | refl => exact hfind
  | @put after put other _ htab ih =>
    rw [ByName.find?_insert] at hfind
    split at hfind
    · rename_i heq
      obtain rfl := Option.some.inj hfind
      rcases htab with hdirty | hold
      · exact absurd (hclean.symm.trans hdirty) Bool.false_ne_true
      · exact ih (heq ▸ hold)
    · exact ih hfind

namespace Registry

variable {registry : Registry} {requests : List Request} {name : String} {tab : Tab}
  {picture : Picture}

/-- Making sure that there is a tab changes none that is there. -/
theorem marked_touch (registry : Registry) (name : String) :
    Marked registry.tabs (registry.touch name).tabs :=
  .put name .refl (registry.tabOrFresh_dirty_or name)

/-- **No request makes a tab clean**, save that pictures be taken: a tab that is clean
afterwards was there before, and was the same. -/
theorem find?_of_serve {request : Request} (hrequest : request ≠ .takePictures)
    (hfind : (registry.serve request).1.tabs.find? name = some tab) (hclean : tab.dirty = false) :
    registry.tabs.find? name = some tab := by
  cases request with
  | fulfil request => exact (registry.marked_fulfil request).find?_of_clean hfind hclean
  | record other channel batch =>
    exact (registry.marked_record other channel batch).find?_of_clean hfind hclean
  | resize other capacity =>
    exact (registry.marked_resize other capacity).find?_of_clean hfind hclean
  | zoom other grow => exact (registry.marked_zoom other grow).find?_of_clean hfind hclean
  | touch other => exact (registry.marked_touch other).find?_of_clean hfind hclean
  | remove other =>
    have herase : (registry.tabs.erase other).find? name = some tab := hfind
    rw [ByName.find?_erase] at herase
    split at herase
    · exact absurd herase.symm (Option.some_ne_none _)
    · exact herase
  | takePictures => exact absurd rfl hrequest

/-! ### Taking pictures -/

/-- **Pictures are taken of the dirty tabs.** -/
theorem mem_dirtyPictures :
    picture ∈ registry.dirtyPictures ↔
      ∃ name tab, registry.tabs.find? name = some tab ∧ tab.dirty = true ∧
        picture = tab.picture name := by
  rw [dirtyPictures, List.mem_filterMap]
  constructor
  · rintro ⟨⟨name, tab⟩, hmem, hpicture⟩
    split at hpicture
    · rename_i hdirty
      exact ⟨name, tab, ByName.find?_eq_some_iff.2 hmem, hdirty, (Option.some.inj hpicture).symm⟩
    · exact absurd hpicture.symm (Option.some_ne_none _)
  · rintro ⟨name, tab, hfind, hdirty, rfl⟩
    exact ⟨(name, tab), ByName.find?_eq_some_iff.1 hfind, if_pos hdirty⟩

/-- **Pictures are taken in the order of the names**, and of no tab twice. -/
theorem pairwise_dirtyPictures (registry : Registry) :
    registry.dirtyPictures.Pairwise fun one other => one.tab < other.tab := by
  refine List.Pairwise.filterMap _ ?_ registry.tabs.sorted
  intro entry other hlt picture hpicture picture' hpicture'
  split at hpicture
  · split at hpicture'
    · obtain rfl := Option.some.inj hpicture
      obtain rfl := Option.some.inj hpicture'
      exact hlt
    · exact absurd hpicture'.symm (Option.some_ne_none _)
  · exact absurd hpicture.symm (Option.some_ne_none _)

/-- A tab after pictures were taken is a tab before, made clean. -/
theorem exists_of_find?_clean (h : registry.clean.tabs.find? name = some tab) :
    ∃ before, registry.tabs.find? name = some before ∧ tab = before.clean := by
  rw [find?_clean] at h
  obtain ⟨before, hbefore, rfl⟩ := Option.map_eq_some_iff.1 h
  exact ⟨before, hbefore, rfl⟩

/-! ### The last picture of a tab -/

/-- The pictures among an answer. -/
def Answer.pictures : Answer → List Picture
  | .pictured pictures => pictures
  | _ => []

/-- All pictures that are taken in a row of requests. -/
def taken (registry : Registry) (requests : List Request) : List Picture :=
  (registry.answers requests).flatMap Answer.pictures

/-- **The last picture of a tab**, in a row of requests: at some point pictures were taken,
this one of the tab among them; from then on the tab has been there all the time, and no other
picture of it has been taken. -/
def LastTaken (registry : Registry) (requests : List Request) (name : String)
    (picture : Picture) : Prop :=
  ∃ before since, requests = before ++ .takePictures :: since ∧
    picture ∈ (registry.after before).takePictures.2 ∧ picture.tab = name ∧
    (∀ past, past <+: since →
      (registry.after (before ++ .takePictures :: past)).tabs.contains name = true) ∧
    ∀ other ∈ (registry.after (before ++ [.takePictures])).taken since, other.tab ≠ name

theorem taken_concat (registry : Registry) (requests : List Request) (request : Request) :
    registry.taken (requests ++ [request])
      = registry.taken requests ++ (registry.after requests).taken [request] := by
  rw [taken, taken, taken, answers_append, List.flatMap_append]

/-- A picture that has just been taken is the last one. -/
theorem LastTaken.of_mem (hmem : picture ∈ (registry.after requests).takePictures.2) :
    LastTaken registry (requests ++ [.takePictures]) picture.tab picture := by
  refine ⟨requests, [], rfl, hmem, rfl, ?_, ?_⟩
  · intro past hpast
    obtain rfl := List.prefix_nil.1 hpast
    obtain ⟨name, tab, hfind, -, rfl⟩ := mem_dirtyPictures.1 hmem
    rw [after_concat]
    show ((registry.after requests).clean.tabs.find? name).isSome = true
    rw [find?_clean, hfind]
    rfl
  · intro other hother
    exact absurd hother List.not_mem_nil

/-- It stays the last one as long as the tab is there and no other is taken. -/
theorem LastTaken.concat (h : LastTaken registry requests name picture) {request : Request}
    (hthere : (registry.after (requests ++ [request])).tabs.contains name = true)
    (hnone : ∀ other ∈ (registry.after requests).taken [request], other.tab ≠ name) :
    LastTaken registry (requests ++ [request]) name picture := by
  obtain ⟨before, since, rfl, hmem, htab, hstays, hnot⟩ := h
  refine ⟨before, since ++ [request], List.append_assoc _ _ _, hmem, htab, ?_, ?_⟩
  · intro past hpast
    rcases List.prefix_concat_iff.1 hpast with rfl | hpast
    · rw [List.append_assoc] at hthere
      exact hthere
    · exact hstays past hpast
  · intro other hother
    rw [taken_concat, List.mem_append] at hother
    rcases hother with hother | hother
    · exact hnot other hother
    · rw [← after_append, List.append_assoc] at hother
      exact hnone other hother

/-- **The picture of a clean tab is the last that was taken of it.** -/
theorem lastTaken_of_clean (h : registry.AllDirty) (requests : List Request)
    (hfind : (registry.after requests).tabs.find? name = some tab) (hclean : tab.dirty = false) :
    LastTaken registry requests name (tab.picture name) := by
  induction requests using List.reverseRecOn generalizing tab with
  | nil => exact absurd (hclean.symm.trans (h name tab hfind)) Bool.false_ne_true
  | append_singleton requests request ih =>
    have hthere : (registry.after (requests ++ [request])).tabs.contains name = true :=
      Option.isSome_of_eq_some hfind
    rw [after_concat] at hfind
    by_cases hrequest : request = .takePictures
    · subst hrequest
      obtain ⟨mid, hmid, rfl⟩ := exists_of_find?_clean hfind
      cases hdirty : mid.dirty with
      | true => exact LastTaken.of_mem (mem_dirtyPictures.2 ⟨name, mid, hmid, hdirty, rfl⟩)
      | false =>
        -- of a clean tab no picture is taken, and the one there is stays the last
        refine (ih hmid hdirty).concat hthere fun other hother hname => ?_
        rw [taken, List.mem_flatMap] at hother
        obtain ⟨answer, hanswer, hother⟩ := hother
        obtain rfl := List.mem_singleton.1 hanswer
        obtain ⟨name', tab', hfind', hdirty', rfl⟩ := mem_dirtyPictures.1 hother
        obtain rfl : name' = name := hname
        obtain rfl := Option.some.inj (hmid.symm.trans hfind')
        exact absurd (hdirty.symm.trans hdirty') Bool.false_ne_true
    · refine (ih (find?_of_serve hrequest hfind hclean) hclean).concat hthere fun other hother => ?_
      cases request with
      | takePictures => exact absurd rfl hrequest
      | _ => exact absurd hother List.not_mem_nil

/-- **No change of a picture is lost.** From a registry as it is to begin with, let any
requests be made. Then the picture of every tab that is clean is the one that would be drawn
now, in all that it shows: it is the last that was taken of the tab since the tab was made.
And whenever pictures are taken, they are those of the dirty tabs, each once and in the order
of the names; no tab is dirty afterwards, and no picture has changed by it. -/
theorem lastTaken_of_run {config : Config} {palette : Palette}
    (h : IsInitial config palette registry) (requests : List Request) :
    let now := registry.after requests
    let later := now.takePictures.1
    (∀ name tab, now.tabs.find? name = some tab → tab.dirty = false →
        LastTaken registry requests name (tab.picture name)) ∧
      (now.takePictures.2.Pairwise fun one other => one.tab < other.tab) ∧
      (∀ picture, picture ∈ now.takePictures.2 ↔
        ∃ name tab, now.tabs.find? name = some tab ∧ tab.dirty = true ∧
          picture = tab.picture name) ∧
      (∀ name tab, later.tabs.find? name = some tab → tab.dirty = false) ∧
      ∀ name, later.picture? name = now.picture? name := by
  intro now later
  refine ⟨fun name tab => lastTaken_of_clean h.allDirty requests, now.pairwise_dirtyPictures,
    fun picture => mem_dirtyPictures, fun name tab hfind => ?_, now.picture?_clean⟩
  obtain ⟨before, -, rfl⟩ := exists_of_find?_clean hfind
  rfl

/-- Samples are recorded and pictures are taken. Then another tab is asked for, with a capacity
that is not allowed, and samples come for a channel that is not selected. The picture of the
first tab still is the one that was taken. -/
theorem lastTaken_of_run_onePlot :
    ∃ registry, IsInitial onePlot ⟨0⟩ registry ∧
      let requests : List Request :=
        [.record "power" "volts" [⟨1.0, 10.0⟩, ⟨2.0, 20.0⟩, ⟨3.0, 30.0⟩], .takePictures,
          .resize "thermal" 0, .record "power" "amps" [⟨4.0, 40.0⟩]]
      let now := registry.after requests
      ∃ tab, now.tabs.find? "power" = some tab ∧ tab.dirty = false ∧
        LastTaken registry requests "power" (tab.picture "power") ∧
        now.takePictures.2.map Picture.tab = ["thermal"] := by
  have hinitial : IsInitial onePlot ⟨0⟩ _ := Or.inr (show ofConfig? onePlot ⟨0⟩ = .ok _ from rfl)
  refine ⟨_, hinitial, ?_⟩
  intro requests now
  obtain ⟨hlast, -⟩ := lastTaken_of_run hinitial requests
  have hfind : (now.tabs.find? "power").isSome = true := by decide +kernel
  obtain ⟨tab, htab⟩ := Option.isSome_iff_exists.1 hfind
  have hclean : (now.tabs.find? "power").map Tab.dirty = some false := by decide +kernel
  rw [htab, Option.map_some] at hclean
  exact ⟨tab, htab, Option.some.inj hclean, hlast "power" tab htab (Option.some.inj hclean),
    by decide +kernel⟩

end Registry

end StripChart
