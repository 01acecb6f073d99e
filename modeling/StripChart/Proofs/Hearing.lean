import StripChart.Proofs.Fates

/-!
# What handlers hear

A handler carries its calls with it, and from these it can be read off what it has been called
with. A row of entries is heard (`Heard`): the handlers are the same as before, and each of them
has heard, after what it had heard by then, the values under its key among the entries that
handlers are called with, each once and in their order (`Heard.answerAll`).

This is said of all keys at once, those without a handler among them, so that two rows in
succession are heard as one (`Heard.append`) and only a single entry has to be looked at.
-/

namespace StripChart

namespace Handler

/-- The values that the handler has been called with, the first one first. -/
def heard (handler : Handler) : List Json :=
  (handler.calls.map (·.value)).reverse

/-- The handler as far as its calls go: what it does, and the values it has heard. -/
def view (handler : Handler) : (List Call → Call → Message) × List Json :=
  (handler.respond, handler.heard)

/-- The handler after it has heard more values. -/
def hearing (values : List Json) (handler : Handler) : (List Call → Call → Message) × List Json :=
  (handler.respond, handler.heard ++ values)

theorem hearing_nil (handler : Handler) : handler.hearing [] = handler.view := by
  rw [hearing, List.append_nil, view]

/-- A call is heard once. -/
theorem view_call (handler : Handler) (value : Json) (response : Message) :
    (handler.call value response).1.view = handler.hearing [value] := by
  simp [call, view, hearing, heard]

end Handler

/-- The values of the entries under a key. -/
def valuesUnder (key : String) (entries : List (String × Json)) : List Json :=
  (entries.filter fun entry => entry.1 = key).map (·.2)

theorem valuesUnder_append (key : String) (first second : List (String × Json)) :
    valuesUnder key (first ++ second) = valuesUnder key first ++ valuesUnder key second := by
  rw [valuesUnder, List.filter_append, List.map_append]
  rfl

/-- **Handlers have heard the values under their keys**: where there was a handler there is the
same, and it has heard the values of these entries that stand under its key, each once. -/
def Heard (entries : List (String × Json)) (before after : ByName Handler) : Prop :=
  ∀ key, (after.find? key).map Handler.view
    = (before.find? key).map (Handler.hearing (valuesUnder key entries))

namespace Heard

theorem refl (handlers : ByName Handler) : Heard [] handlers handlers := by
  intro key
  cases handlers.find? key with
  | none => rfl
  | some handler => exact congrArg some handler.hearing_nil.symm

/-- What is heard later is heard after what was heard before. -/
theorem append {first second : List (String × Json)} {before between after : ByName Handler}
    (hfirst : Heard first before between) (hsecond : Heard second between after) :
    Heard (first ++ second) before after := by
  intro key
  have hone := hfirst key
  rw [hsecond key, valuesUnder_append]
  cases hbefore : before.find? key with
  | none =>
    -- nobody has been registered between, either
    rw [hbefore] at hone
    rw [Option.map_eq_none_iff.1 hone]
    rfl
  | some handler =>
    rw [hbefore] at hone
    obtain ⟨later, hlater, hview⟩ := Option.map_eq_some_iff.1 hone
    obtain ⟨hrespond, hheard⟩ := Prod.mk.inj hview
    rw [hlater, Option.map_some, Option.map_some, Handler.hearing, Handler.hearing, hrespond,
      hheard, List.append_assoc]

/-- **An entry is heard by its handler, if that is its fate**, and by no other. -/
theorem answerEntry (state : ByName Handler × Message) (entry : String × Json) :
    Heard (Incoming.meeting state.1.contains .handled [entry]) state.1
      (Message.answerEntry state entry).1.1 := by
  rcases Message.answerEntry_cases state entry with ⟨hecho, hcase⟩ | ⟨hecho, hnobody, hcase⟩ |
    ⟨hcustom, handler, hfind, hcase⟩
  · have hfate : Incoming.fate state.1.contains entry = .returned := if_pos hecho
    rw [hcase, Incoming.meeting_singleton, hfate]
    exact refl state.1
  · have hfate : Incoming.fate state.1.contains entry ≠ .handled := by
      intro hfate
      rcases hnobody with hbuiltIn | hnone
      · exact Incoming.not_isBuiltIn_of_handled hfate hbuiltIn
      · rw [Incoming.fate, if_neg hecho, ByName.contains, hnone] at hfate
        split at hfate
        · split at hfate <;> cases hfate
        · cases hfate
    rw [hcase, Incoming.meeting_singleton, if_neg hfate]
    exact refl state.1
  · have hfate : Incoming.fate state.1.contains entry = .handled := by
      rw [Incoming.fate, if_neg fun h => hcustom (Or.inl h), if_neg hcustom, ByName.contains, hfind]
      rfl
    rw [hcase, Incoming.meeting_singleton, if_pos hfate]
    intro key
    rw [ByName.find?_insert]
    by_cases hkey : key = entry.1
    · subst hkey
      rw [if_pos rfl, hfind, Option.map_some, Option.map_some, Handler.view_call]
      simp [valuesUnder]
    · have hvalues : valuesUnder key [entry] = [] := by
        simp [valuesUnder, Ne.symm hkey]
      rw [if_neg hkey, hvalues]
      exact refl state.1 key

theorem answerEntries (state : ByName Handler × Message) (entries : List (String × Json)) :
    Heard (Incoming.meeting state.1.contains .handled entries) state.1
      (Message.answerEntries state entries).1 := by
  induction entries generalizing state with
  | nil => exact refl state.1
  | cons entry rest ih =>
    have hrest := ih (Message.answerEntry state entry).1
    rw [Message.contains_answerEntry] at hrest
    rw [← List.singleton_append, Incoming.meeting_append]
    exact (answerEntry state entry).append hrest

/-- **The entries of a row of frames are heard by their handlers, each once.** -/
theorem answerAll (handlers : ByName Handler) (frames : List Received) :
    Heard (Incoming.meeting handlers.contains .handled (frames.flatMap Received.entries)) handlers
      (Received.answerAll handlers frames).1 := by
  induction frames generalizing handlers with
  | nil => exact refl handlers
  | cons received rest ih =>
    have hrest := ih (Received.answer handlers received).1
    rw [show (Received.answer handlers received).1.contains = handlers.contains from
      Received.contains_answerAll handlers [received]] at hrest
    rw [List.flatMap_cons, Incoming.meeting_append]
    refine append ?_ hrest
    cases received with
    | malformed fault => exact refl handlers
    | message said => exact answerEntries (handlers, ByName.empty) said.entries

end Heard

end StripChart
