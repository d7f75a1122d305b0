/-
A run of the command, from its words to what it prints.

The words give the file, the selections and the definitions (`ofWords_file`).
If the file is refused, nothing is printed and the code is 1; if it is loaded,
one line is printed, and it reads as one object (`plain_result`). The ids in it
are those of the resolution, so what is said of active profiles is said of
them. A selection or a definition that is nothing but `--` is no text at all,
and the run breaks off at it.
-/
import BuildProfiles.Proofs.CommandWords
import BuildProfiles.Proofs.Loading
import BuildProfiles.Proofs.Overrides
import BuildProfiles.Proofs.Selections
import BuildProfiles.Proofs.Writing

namespace BuildProfiles

/-! ## Ids of a document -/

namespace Definitions

theorem hasText_of_parse {loader : Loader} {sourceName : Text} {document : Json.Value} {profiles : List Profile}
    (h : parse loader sourceName document = .ok profiles) {p : Profile} (hp : p ∈ profiles) :
    p.id = "" ∨ document.HasText p.id := by
  unfold parse at h
  split at h <;> cases h
  obtain ⟨⟨entry, position⟩, hentry, rfl⟩ := List.mem_map.1 hp
  replace hentry := List.fst_mem_of_mem_zipIdx hentry
  cases hid : (entry.member? "id").bind (·.text?) with
  | none => exact .inl (congrArg (·.getD "") hid)
  | some id =>
    obtain ⟨value, hvalue, htext⟩ := Option.bind_eq_some_iff.1 hid
    cases hentries : (document.member? "profiles").bind (·.items?) with
    | none =>
      rw [hentries] at hentry
      cases hentry
    | some entries =>
      rw [hentries] at hentry
      obtain ⟨listed, hlisted, hitems⟩ := Option.bind_eq_some_iff.1 hentries
      have hentry' : entry.HasText id := by
        cases value <;> cases htext
        exact Json.Value.hasText_of_member? hvalue .here
      have hlist : listed.HasText id := by
        cases listed <;> cases hitems
        exact .item hentry hentry'
      refine .inr ?_
      show document.HasText (((entry.member? "id").bind (·.text?)).getD "")
      rw [hid]
      exact Json.Value.hasText_of_member? hlisted hlist

/-- No id of a document has a high half with a low one behind it. -/
theorem unpaired_id {loader : Loader} {path : Path} {entry : FileEntry} {profiles : List Profile}
    (h : load loader path entry = .ok profiles) {p : Profile} (hp : p ∈ profiles) :
    Text.Unpaired p.id.toList := by
  cases entry with
  | missing => cases h
  | unreadable => cases h
  | nameTooLong => cases h
  | file octets =>
    obtain ⟨value, ⟨text, -, hread⟩, hparse⟩ := load_eq_ok_iff.1 h
    rcases hasText_of_parse hparse hp with hempty | htext
    · rw [hempty]
      exact .nil
    · exact Json.unpaired_of_read hread htext

end Definitions

/-! ## What is printed -/

theorem plain_report (problem : Problem) : Json.Plain problem.report := by
  have hoptional : ∀ text : Option Text, Json.Plain ((text.map Json.Value.text).getD .null)
    | none => .null
    | some text => .text text
  refine .object (by simp) fun member hmember => ?_
  simp only [List.mem_cons, List.not_mem_nil, or_false] at hmember
  rcases hmember with rfl | rfl | rfl | rfl | rfl
  · exact .text _
  · exact .text _
  · exact .text _
  · exact hoptional _
  · exact hoptional _

namespace CommandLine

open Resolution

theorem joined_result {active : List Placed} {problems : List Problem}
    (h : ∀ id ∈ ids active, Text.Unpaired id.toList) :
    (result active problems).joined = .object [("active_profiles", .array ((ids active).map .text)),
      ("problems", .array (problems.map (·.report.joined)))] := by
  have hids : ((ids active).map Json.Value.text).map Json.Value.joined = (ids active).map .text := by
    rw [List.map_map]
    refine List.map_congr_left fun id hid => ?_
    rw [Function.comp_apply, Json.Value.joined, Text.joined_of_unpaired (h id hid)]
  rw [result, Json.Value.joined_object]
  simp [Json.Value.joinedMember, Json.Value.joined_array, hids, Function.comp_def]

theorem plain_result (active : List Placed) (problems : List Problem) :
    Json.Plain (result active problems) := by
  have hids : Json.Plain (.array ((ids active).map .text)) := .array fun item hitem => by
    obtain ⟨id, -, rfl⟩ := List.mem_map.1 hitem
    exact .text id
  have hproblems : Json.Plain (.array (problems.map Problem.report)) := .array fun item hitem => by
    obtain ⟨problem, -, rfl⟩ := List.mem_map.1 hitem
    exact plain_report problem
  refine .object (by simp) fun member hmember => ?_
  simp only [List.mem_cons, List.not_mem_nil, or_false] at hmember
  rcases hmember with rfl | rfl
  · exact hids
  · exact hproblems

/-! ## The ids of the active profiles -/

theorem nodup_ids_arranged {v : Profile → Verdict} {placed : List Placed}
    (h : (placed.map (·.1.id)).Nodup) : (ids (arranged v placed)).Nodup := by
  rw [ids, arranged, List.map_append, List.nodup_append]
  refine ⟨h.sublist (List.filter_sublist.map _), ?_, ?_⟩
  · split
    · exact .nil
    · exact h.sublist (List.filter_sublist.map _)
  · intro id hearly other hlate heq
    obtain ⟨a, ha, rfl⟩ := List.mem_map.1 hearly
    split at hlate
    · cases hlate
    · obtain ⟨b, hb, rfl⟩ := List.mem_map.1 hlate
      rw [List.mem_filter] at ha hb
      have hab : a = b := List.inj_on_of_nodup_map h ha.1 hb.1 heq
      exact not_comesEarly_and_waits ⟨ha.2, hab ▸ hb.2⟩

section

variable {profiles : List Profile} {context : Context} {id : Text}

theorem activePlaces_of_repeated (h : ¬ (profiles.map (·.id)).Nodup) : activePlaces profiles context = [] := by
  rw [activePlaces, resolve_of_repeated h]
  rfl

theorem nodup_ids_activePlaces (profiles : List Profile) (context : Context) :
    (ids (activePlaces profiles context)).Nodup := by
  by_cases distinct : (profiles.map (·.id)).Nodup
  · rw [activePlaces_eq distinct]
    exact nodup_ids_arranged (nodup_ids_zipIdx distinct)
  · rw [activePlaces_of_repeated distinct]
    exact .nil

theorem verdictAlone_of_inactive {p : Profile} (h : p.id ∈ context.inactiveIds) :
    verdictAlone context p = .deactivated := by
  rw [verdictAlone, judgeAlone, judge_of_inactive h]

theorem verdictAlone_of_active {p : Profile} (hd : p.id ∉ context.inactiveIds) (ha : p.id ∈ context.activeIds) :
    verdictAlone context p = .selected := by
  rw [verdictAlone, judgeAlone, judge_of_active hd ha]

theorem mem_ids_activePlaces (h : id ∈ ids (activePlaces profiles context)) :
    id ∈ profiles.map (·.id) ∧ id ∉ context.inactiveIds := by
  by_cases distinct : (profiles.map (·.id)).Nodup
  · obtain ⟨placed, hplaced, rfl⟩ := List.mem_map.1 h
    obtain ⟨hmem, hverdict⟩ := (mem_activePlaces distinct).1 hplaced
    refine ⟨List.mem_map_of_mem (List.fst_mem_of_mem_zipIdx hmem), fun hinactive => ?_⟩
    rw [verdictAlone_of_inactive hinactive] at hverdict
    rcases hverdict with h | ⟨h, -⟩ <;> cases h
  · rw [activePlaces_of_repeated distinct] at h
    cases h

theorem mem_ids_of_selected (distinct : (profiles.map (·.id)).Nodup) (h : id ∈ profiles.map (·.id))
    (hactive : id ∈ context.activeIds) (hinactive : id ∉ context.inactiveIds) :
    id ∈ ids (activePlaces profiles context) := by
  obtain ⟨p, hp, rfl⟩ := List.mem_map.1 h
  obtain ⟨i, hi⟩ := exists_mem_zipIdx hp
  have hverdict := verdictAlone_of_active hinactive hactive
  exact List.mem_map.2 ⟨(p, i), (mem_activePlaces distinct).2 ⟨hi, .inl hverdict⟩, rfl⟩

end

/-! ## Texts of options -/

theorem none_mem_attached {values : List Text} : none ∈ values.map attachedValue ↔ ("--" : Text) ∈ values := by
  simp [attachedValue]

theorem texts_of_separator {missing : Ending} {values : List Text} (h : ("--" : Text) ∈ values) :
    texts missing (values.map attachedValue) = .error missing := by
  rw [texts, if_pos (none_mem_attached.2 h)]

theorem texts_attached {missing : Ending} {values : List Text} (h : ("--" : Text) ∉ values) :
    texts missing (values.map attachedValue) = .ok values := by
  have hkept : values.map attachedValue = values.map some :=
    List.map_congr_left fun value hvalue => if_neg (ne_of_mem_of_not_mem hvalue h)
  rw [texts, if_neg (none_mem_attached.not.2 h), hkept]
  simp

/-! ## A run with a file -/

/-- The words of a run that is given a file, and values in the words of their options. -/
def runWords (file : Text) (given : List (ResolveOption × Text)) : List Text :=
  resolveName :: "--profiles" :: file :: given.map attachedWord

/-- What a run prints of the profiles, where it gets as far as resolving them. -/
structure Prints (profiles : List Profile) (selections : List Text) (outcome : Outcome)
    (active : List Text) (problems : List Problem) : Prop where
  ending : outcome.ending = .exit 0
  /-- The output reads as one object. A report may hold texts of any origin, and
  halves of pairs that meet in it read as one character. -/
  output : Json.read outcome.output.toList =
    .ok (.object [("active_profiles", .array (active.map .text)),
      ("problems", .array (problems.map (·.report.joined)))])
  nodup : active.Nodup
  declared : ∀ id ∈ active, id ∈ profiles.map (·.id)
  kept : ∀ id ∈ active, ∀ text ∈ selections, ¬ Deselects text id
  selected : (profiles.map (·.id)).Nodup → ∀ id ∈ profiles.map (·.id),
    (∃ text ∈ selections, Selects text id) → (∀ text ∈ selections, ¬ Deselects text id) → id ∈ active
  repeated : ¬ (profiles.map (·.id)).Nodup → active = [] ∧ problems = []

theorem prints_resolveProfiles {context : Context} {selections : List Text}
    (hactive : context.activeIds = (Selection.parse selections).active)
    (hinactive : context.inactiveIds = (Selection.parse selections).inactive) (host : Host) (threshold : Nat)
    (sourceName : Text) {profiles : List Profile} (hids : ∀ p ∈ profiles, Text.Unpaired p.id.toList) :
    Prints profiles selections (resolveProfiles host threshold context sourceName profiles)
      (ids (activePlaces profiles context))
      (problems (Selector.standard.resolve profiles context)) where
  ending := rfl
  output := by
    have hactive : ∀ id ∈ ids (activePlaces profiles context), Text.Unpaired id.toList := by
      intro id hid
      obtain ⟨p, hp, rfl⟩ := List.mem_map.1 (mem_ids_activePlaces hid).1
      exact hids p hp
    rw [resolveProfiles, result_eq_activePlaces, ← joined_result hactive]
    exact (plain_result (activePlaces profiles context) _).read_line
  nodup := nodup_ids_activePlaces profiles context
  declared id h := (mem_ids_activePlaces h).1
  kept id h text htext hdeselects := by
    have hin := (mem_ids_activePlaces h).2
    rw [hinactive, Selection.mem_inactive_parse] at hin
    exact hin ⟨text, htext, hdeselects⟩
  selected distinct id hid hselects hkept := by
    refine mem_ids_of_selected distinct hid ?_ ?_
    · rw [hactive, Selection.mem_active_parse]
      exact hselects
    · rw [hinactive, Selection.mem_inactive_parse]
      rintro ⟨text, htext, hdeselects⟩
      exact hkept text htext hdeselects
  repeated h := by
    rw [activePlaces_of_repeated h, problems, resolve_of_repeated h]
    exact ⟨rfl, rfl⟩

section

variable {validator : Validator} {host : Host} {file : Text} {given : List (ResolveOption × Text)}
  {threshold : Nat}

theorem run_file (hdash : file.toList.head? ≠ some (.char '-'))
    (hgiven : ∀ entry ∈ given, entry.1 = .selection ∨ entry.1 = .definition)
    (hlevel : thresholds.lookup (levelName none (.ofEnvironment host.environment)) = some threshold) :
    run validator host (runWords file given) =
      runResolve validator host (.ofEnvironment host.environment) threshold (argumentsOf file given) := by
  rw [run, runWords, ofWords_file (.of_no_dash hdash) hgiven]
  simp only [withLogging, hlevel]

variable {settings : Settings}

theorem profiles_argumentsOf (hfile : file ≠ "") :
    Text.ifFilled ((argumentsOf file given).profiles.or settings.profilesFile) = some file :=
  Text.ifFilled_some hfile

theorem loads_runWords (hfile : file ≠ "") (hdash : file.toList.head? ≠ some (.char '-'))
    (hgiven : ∀ entry ∈ given, entry.1 = .selection ∨ entry.1 = .definition)
    (hlevel : (thresholds.lookup (levelName none (.ofEnvironment host.environment))).isSome = true) :
    Loads host (runWords file given) file :=
  ⟨none, argumentsOf file given, ofWords_file (.of_no_dash hdash) hgiven, hlevel, profiles_argumentsOf hfile⟩

theorem runResolve_of_loaded {profiles : List Profile} {context' : Context} (hfile : file ≠ "")
    (h : definitionsAt validator host file = .ok profiles)
    (hcontext : context host settings (argumentsOf file given) file = .ok context') :
    runResolve validator host settings threshold (argumentsOf file given) =
      resolveProfiles host threshold context' (Path.ofText file).text profiles := by
  rw [definitionsAt] at h
  simp only [runResolve, profiles_argumentsOf hfile, h, hcontext]

theorem runResolve_of_lost {profiles : List Profile} {ending : Ending} (hfile : file ≠ "")
    (h : definitionsAt validator host file = .ok profiles)
    (hcontext : context host settings (argumentsOf file given) file = .error ending) :
    ∃ errors, runResolve validator host settings threshold (argumentsOf file given) =
      { ending, errors } := by
  rw [definitionsAt] at h
  simp only [runResolve, profiles_argumentsOf hfile, h, hcontext]
  exact ⟨_, rfl⟩

theorem context_of_texts (hselections : ("--" : Text) ∉ valuesOf .selection given)
    (hdefinitions : ("--" : Text) ∉ valuesOf .definition given) :
    ∃ context', context host settings (argumentsOf file given) file = .ok context' ∧
      context'.activeIds = (Selection.parse (valuesOf .selection given)).active ∧
      context'.inactiveIds = (Selection.parse (valuesOf .selection given)).inactive := by
  rw [context, argumentsOf, texts_attached hselections, texts_attached hdefinitions]
  exact ⟨_, rfl, rfl, rfl⟩

theorem context_of_lost_selection (h : ("--" : Text) ∈ valuesOf .selection given) :
    context host settings (argumentsOf file given) file = .error .selectionMissing := by
  rw [context, argumentsOf, texts_of_separator h]
  rfl

theorem context_of_lost_definition (hselections : ("--" : Text) ∉ valuesOf .selection given)
    (h : ("--" : Text) ∈ valuesOf .definition given) :
    context host settings (argumentsOf file given) file = .error .definitionMissing := by
  rw [context, argumentsOf, texts_attached hselections, texts_of_separator h]
  rfl

theorem run_of_loaded {profiles : List Profile} (hfile : file ≠ "")
    (hdash : file.toList.head? ≠ some (.char '-'))
    (hgiven : ∀ entry ∈ given, entry.1 = .selection ∨ entry.1 = .definition)
    (hlevel : thresholds.lookup (levelName none (.ofEnvironment host.environment)) = some threshold)
    (hload : definitionsAt validator host file = .ok profiles) :
    (("--" : Text) ∉ valuesOf .selection given → ("--" : Text) ∉ valuesOf .definition given →
      ∃ active problems, Prints profiles (valuesOf .selection given)
        (run validator host (runWords file given)) active problems) ∧
    (("--" : Text) ∈ valuesOf .selection given →
      ∃ errors, run validator host (runWords file given) = { ending := .selectionMissing, errors }) ∧
    (("--" : Text) ∉ valuesOf .selection given → ("--" : Text) ∈ valuesOf .definition given →
      ∃ errors, run validator host (runWords file given) = { ending := .definitionMissing, errors }) := by
  rw [run_file hdash hgiven hlevel]
  refine ⟨fun hselections hdefinitions => ?_, fun hlost => ?_, fun hselections hlost => ?_⟩
  · obtain ⟨context', hcontext, hactive, hinactive⟩ := context_of_texts hselections hdefinitions
    rw [runResolve_of_loaded hfile hload hcontext]
    exact ⟨_, _, prints_resolveProfiles hactive hinactive host threshold _
      fun _ => Definitions.unpaired_id hload⟩
  · exact runResolve_of_lost hfile hload (context_of_lost_selection hlost)
  · exact runResolve_of_lost hfile hload (context_of_lost_definition hselections hlost)

/-- **A run with a file ends with the code 1 and prints nothing exactly if the
definitions are refused.** If they are loaded, it prints one object: its ids are
distinct ids of the profiles, none of them is deselected, and where the
profiles have distinct ids, all that are selected and nowhere deselected are
among them. Only a value that is nothing but `--` keeps a run from printing. -/
theorem run_file_refused_or_printed (hfile : file ≠ "") (hdash : file.toList.head? ≠ some (.char '-'))
    (hgiven : ∀ entry ∈ given, entry.1 = .selection ∨ entry.1 = .definition)
    (hlevel : (thresholds.lookup (levelName none (.ofEnvironment host.environment))).isSome = true)
    (hload : (∃ profiles, definitionsAt validator host file = .ok profiles) ∨
      ∃ error, definitionsAt validator host file = .error (.definitions error)) :
    ((run validator host (runWords file given)).ending = .exit 1 ∧
        (run validator host (runWords file given)).output = "" ↔
      ∃ error, definitionsAt validator host file = .error (.definitions error)) ∧
    ∀ profiles, definitionsAt validator host file = .ok profiles →
      (("--" : Text) ∉ valuesOf .selection given → ("--" : Text) ∉ valuesOf .definition given →
        ∃ active problems, Prints profiles (valuesOf .selection given)
          (run validator host (runWords file given)) active problems) ∧
      (("--" : Text) ∈ valuesOf .selection given →
        ∃ errors, run validator host (runWords file given) = { ending := .selectionMissing, errors }) ∧
      (("--" : Text) ∉ valuesOf .selection given → ("--" : Text) ∈ valuesOf .definition given →
        ∃ errors, run validator host (runWords file given) = { ending := .definitionMissing, errors }) := by
  obtain ⟨threshold, hthreshold⟩ := Option.isSome_iff_exists.1 hlevel
  refine ⟨⟨fun hrun => ?_, ?_⟩, fun profiles => run_of_loaded hfile hdash hgiven hthreshold⟩
  · refine hload.resolve_left ?_
    rintro ⟨profiles, hprofiles⟩
    obtain ⟨hprints, hselection, hdefinition⟩ := run_of_loaded hfile hdash hgiven hthreshold hprofiles
    have hending := hrun.1
    by_cases hlost : ("--" : Text) ∈ valuesOf .selection given
    · obtain ⟨errors, hrun'⟩ := hselection hlost
      rw [hrun'] at hending
      cases hending
    by_cases hlost' : ("--" : Text) ∈ valuesOf .definition given
    · obtain ⟨errors, hrun'⟩ := hdefinition hlost hlost'
      rw [hrun'] at hending
      cases hending
    · obtain ⟨active, problems, h⟩ := hprints hlost hlost'
      rw [h.ending] at hending
      cases hending
  · rintro ⟨error, herror⟩
    rw [run_of_refused (loads_runWords hfile hdash hgiven hlevel) herror]
    exact ⟨rfl, rfl⟩

end

/-- A host without an environment, on which every file has the same text. -/
def uniformHost (text : String) : Host where
  environment := .empty
  system := ""
  machine := ""
  release := ""
  directory := "/"
  entry _ := .file text.toUTF8.data.toList
  resolve path := path.resolveAgainst (.ofText "/")
  clock := ""

/-- The id that is selected is printed, and the one that is deselected is not. -/
theorem run_prints_selected :
    let host := uniformHost "\x7b\"profiles\": [\x7b\"id\": \"docs\"\x7d, \x7b\"id\": \"ci\"\x7d]\x7d"
    let given : List (ResolveOption × Text) := [(.selection, "docs,!ci"), (.definition, "env=ci")]
    ∃ profiles active problems, definitionsAt .standard host "p.json" = .ok profiles ∧
      Prints profiles ["docs,!ci"] (run .standard host (runWords "p.json" given)) active problems ∧
      ("docs" : Text) ∈ active ∧ ("ci" : Text) ∉ active := by
  intro host given
  have hids : (definitionsAt .standard host "p.json").toOption.map (·.map (·.id)) = some [("docs" : Text), "ci"] := by
    decide +kernel
  cases hload : definitionsAt .standard host "p.json" with
  | error error =>
    rw [hload] at hids
    cases hids
  | ok profiles =>
    rw [hload] at hids
    have hids : profiles.map (·.id) = [("docs" : Text), "ci"] := Option.some.inj hids
    have hgiven : ∀ entry ∈ given, entry.1 = .selection ∨ entry.1 = .definition := by decide
    obtain ⟨-, hprinted⟩ := run_file_refused_or_printed (by decide) (by decide) hgiven (by decide +kernel)
      (.inl ⟨profiles, hload⟩)
    obtain ⟨active, problems, hprints⟩ := (hprinted profiles hload).1 (by decide) (by decide)
    refine ⟨profiles, active, problems, rfl, hprints, ?_, ?_⟩
    · exact hprints.selected (by rw [hids]; decide) "docs" (by rw [hids]; decide)
        ⟨"docs,!ci", List.mem_cons_self, by decide⟩ (by decide)
    · intro hci
      exact hprints.kept "ci" hci "docs,!ci" List.mem_cons_self (by decide)

/-- Two ids that are halves of pairs are two ids. -/
example :
    let profile (half : String) :=
      "\x7b\"id\": \"\\u" ++ half ++ "\", \"activation\": \x7b\"activeByDefault\": true\x7d\x7d"
    let host := uniformHost ("\x7b\"profiles\": [" ++ profile "d800" ++ ", " ++ profile "d801" ++ "]\x7d")
    (run .standard host (runWords "p.json" [])).output =
      "\x7b\"active_profiles\": [\"\\ud800\", \"\\ud801\"], \"problems\": []\x7d\n" := by
  decide +kernel

/-- Not every run with a file that is loaded prints something: a selection may
be lost. -/
theorem lost_selection_not_printed : ¬ ∀ (host : Host) (file : Text) (given : List (ResolveOption × Text)),
    file ≠ "" → file.toList.head? ≠ some (.char '-') →
    (∀ entry ∈ given, entry.1 = .selection ∨ entry.1 = .definition) →
    (thresholds.lookup (levelName none (.ofEnvironment host.environment))).isSome = true →
    ∀ profiles, definitionsAt .standard host file = .ok profiles → ∃ active problems,
      Prints profiles (valuesOf .selection given) (run .standard host (runWords file given)) active problems := by
  intro h
  let host := uniformHost "\x7b\"profiles\": []\x7d"
  let given : List (ResolveOption × Text) := [(.selection, "--")]
  have hgiven : ∀ entry ∈ given, entry.1 = .selection ∨ entry.1 = .definition := by decide
  have hthreshold : thresholds.lookup (levelName none (.ofEnvironment host.environment)) = some 30 := by
    decide +kernel
  have hsome : (definitionsAt .standard host "p.json").toOption.isSome = true := by decide +kernel
  cases hload : definitionsAt .standard host "p.json" with
  | error error =>
    rw [hload] at hsome
    cases hsome
  | ok profiles =>
    obtain ⟨-, hlost, -⟩ := run_of_loaded (by decide) (by decide) hgiven hthreshold hload
    obtain ⟨errors, hrun⟩ := hlost (by decide)
    obtain ⟨active, problems, hprints⟩ := h host "p.json" given (by decide) (by decide) hgiven
      (by rw [hthreshold]; rfl) profiles hload
    have hending := hprints.ending
    rw [hrun] at hending
    cases hending

end CommandLine

end BuildProfiles
