/-
Failures stay where they arise, also with activators that remember.

`judgeWith` judges a profile as `judge` does, with activators that look at all that was
said before. `ComesTo` says what may come of one profile: the context decides, or
the check goes undisturbed, or it breaks off with a failure, which is reported behind
what the activators had reported and counts as a no. One step comes to one of these
(`comesTo_judgeWith`), so a run does at every profile, each on the history that the
profiles before it have left (`comesTo_judgeAllWith`). With activators that remember
nothing it is the run that takes place (`judgeAllWith_of`).
-/
import BuildProfiles.Proofs.Protocol

namespace BuildProfiles.Resolution

/-- What the steps leave behind, and the history in the end. -/
def heard {α : Type} (talk : Talk α) (history : List Exchange) : Traced α × List Exchange :=
  let (result, later) := talk history
  (⟨(later.drop history.length).flatMap Exchange.events, result⟩, later)

theorem heard_eq {α : Type} {talk : Talk α} {history said : List Exchange} {result : Except Failure α}
    (h : talk history = (result, history ++ said)) :
    heard talk history = (⟨said.flatMap Exchange.events, result⟩, history ++ said) := by
  rw [heard, h]
  simp only [List.drop_left]

/-- The verdict on a profile by activators that remember, and the history in the end. -/
def judgeWith (activators : List Mindful) (model : Model) (context : Context)
    (history : List Exchange) (p : Profile) : (Verdict × List Event) × List Exchange :=
  if Undecided context p then
    let (outcome, later) :=
      heard (checkBy (Mindful.ask (counterpart model p) context) activators.zipIdx) history
    let (holds, events) := contain p.id p.location outcome
    ((Verdict.ofCondition holds p, events), later)
  else (judge [] model context p, history)

/-- The profiles judged in turn, each on the history that the ones before it have left. -/
def judgeAllWith (activators : List Mindful) (model : Model) (context : Context) :
    Tally → List Placed → List Exchange → (Tally × List Event) × List Exchange
  | tally, [], history => ((tally, []), history)
  | tally, placed :: rest, history =>
    let judged := judgeWith activators model context history placed.1
    let others := judgeAllWith activators model context (tally.add placed judged.1.1) rest judged.2
    ((others.1.1, judged.1.2 ++ others.1.2), others.2)

variable {model : Model} {context : Context} {p : Profile}

/-- What is said is what the protocol is about. -/
theorem history_judgeAllWith (activators : List Mindful) (tally : Tally) (placed : List Placed)
    (history : List Exchange) :
    (judgeAllWith activators model context tally placed history).2 =
      converse activators model context (placed.map (·.1)) history := by
  induction placed generalizing tally history with
  | nil => rfl
  | cons placed rest ih =>
    have hear_eq : (judgeWith activators model context history placed.1).2 =
        hear activators model context history placed.1 := by
      rw [judgeWith, hear]
      split <;> rfl
    rw [judgeAllWith, ih, hear_eq, List.map_cons, converse, converse, List.foldl_cons]

/-! ## Activators that remember nothing -/

/-- Where the context decides, it does not matter which activators there are. -/
theorem judge_of_decided {activators : List Activator} (h : ¬ Undecided context p) :
    judge activators model context p = judge [] model context p := by
  obtain hinactive | ⟨hinactive, hactive⟩ := inactive_or_active h
  · rw [judge_of_inactive hinactive, judge_of_inactive hinactive]
  · rw [judge_of_active hinactive hactive, judge_of_active hinactive hactive]

theorem judgeWith_of (activators : List Activator) (history : List Exchange) (p : Profile) :
    (judgeWith (activators.map .of) model context history p).1 = judge activators model context p := by
  rw [judgeWith]
  split
  · rename_i h
    obtain ⟨said, htalk, hevents⟩ := mirrors_check (counterpart model p) context activators history
    rw [heard_eq htalk, hevents, judge_of_undecided h.1 h.2, conditionHolds, counterpart_id]
  · rename_i h
    exact (judge_of_decided h).symm

theorem judgeAllWith_of (activators : List Activator) (tally : Tally) (placed : List Placed)
    (history : List Exchange) :
    (judgeAllWith (activators.map .of) model context tally placed history).1 =
      judgeAll activators model context tally placed := by
  induction placed generalizing tally history with
  | nil => rfl
  | cons placed rest ih => rw [judgeAllWith, judgeAll, ih, judgeWith_of]

/-! ## What comes of a profile -/

/-- What may be said about a profile, and the verdict and the events that come of it. -/
inductive ComesTo (size : Nat) (model : Model) (context : Context) (p : Profile) :
    List Exchange → Verdict × List Event → Prop
  | decided : ¬ Undecided context p → ComesTo size model context p [] (judge [] model context p)
  | undisturbed {said : List Exchange} {holds : Bool} : Undecided context p → Undisturbed size p.id said →
      ComesTo size model context p said (Verdict.ofCondition holds p, said.flatMap Exchange.events)
  | failed {whole said : List Exchange} {failure : Failure} {note : Log.Record} : Undecided context p →
      Undisturbed size p.id whole → BreaksOff failure whole said →
      ComesTo size model context p said (Verdict.ofCondition false p,
        said.flatMap Exchange.events ++ [.logged note, .reported
          { severity := .error, version := .base
            message := "Failed to determine activation for profile " ++ p.id
            location := p.location, failure := some failure }])

theorem comesTo_judgeWith (activators : List Mindful) (history : List Exchange) (p : Profile) :
    ∃ said, (judgeWith activators model context history p).2 = history ++ said ∧
      ComesTo activators.length model context p said (judgeWith activators model context history p).1 := by
  rw [judgeWith]
  split
  · rename_i open_
    rcases runs_check (counterpart model p) context activators history with
      ⟨said, holds, htalk, hsaid⟩ | ⟨said, failure, htalk, whole, _, hbreaks, hwhole⟩
    · rw [heard_eq htalk]
      rw [counterpart_id] at hsaid
      exact ⟨said, rfl, .undisturbed open_ hsaid⟩
    · rw [heard_eq htalk]
      rw [counterpart_id] at hwhole
      exact ⟨said, rfl, .failed open_ hwhole hbreaks⟩
  · rename_i decided
    exact ⟨[], (List.append_nil _).symm, .decided decided⟩

/-- **Whatever the activators remember, a failure stays with the profile on which it
arises.** Each profile comes to its own outcome, and the run goes on behind it. -/
theorem comesTo_judgeAllWith (activators : List Mindful) (model : Model) (context : Context)
    (tally : Tally) (placed : List Placed) (history : List Exchange) :
    let run := judgeAllWith activators model context tally placed history
    ∃ parts : List (List Exchange × Verdict × List Event),
      List.Forall₂ (fun placed part => ComesTo activators.length model context placed.1 part.1 part.2)
        placed parts ∧
      run.2 = history ++ parts.flatMap (·.1) ∧ run.1.2 = parts.flatMap (·.2.2) ∧
      run.1.1 = (placed.zip parts).foldl (fun tally judged => tally.add judged.1 judged.2.2.1) tally := by
  induction placed generalizing tally history with
  | nil => exact ⟨[], .nil, (List.append_nil _).symm, rfl, rfl⟩
  | cons placed rest ih =>
    obtain ⟨said, hlater, hplaced⟩ := comesTo_judgeWith activators history placed.1
    obtain ⟨parts, hparts, hlast, hevents, htally⟩ :=
      ih (tally.add placed (judgeWith activators model context history placed.1).1.1) (history ++ said)
    refine ⟨(said, (judgeWith activators model context history placed.1).1) :: parts,
      .cons hplaced hparts, ?_, ?_, ?_⟩
    · rw [judgeAllWith, hlater, hlast, List.flatMap_cons, List.append_assoc]
    · rw [judgeAllWith, hlater, hevents, List.flatMap_cons]
    · rw [judgeAllWith, hlater, htally, List.zip_cons_cons, List.foldl_cons]

/-- The activator fails on whatever it is asked first. The next profile is judged all the
same. -/
example :
    let shy : Mindful :=
      ⟨fun history _ _ _ => { answer := if history.isEmpty then .error (.raised .value none) else .ok true }⟩
    let profiles : List Profile := [{ id := "docs" }, { id := "site" }]
    let run := judgeAllWith [shy] ⟨profiles⟩ {} {} profiles.zipIdx []
    ids run.1.1.settled = [("site" : Text)] ∧
      (run.1.2.filterMap Event.problem?).map (·.message) =
        [("Failed to determine activation for profile docs" : Text)] := by
  decide +kernel

end BuildProfiles.Resolution
