/-
What a run takes from the environment.

Apart from its settings a run asks the environment for the version of the JDK. The
variables come to it as system properties, and only where they are exposed, so two
environments that hide them lead to the same run (`run_within`). Where they are
exposed they stand beside the facts about the host and never in their place: the
names of those do not begin like the names of exposed variables
(`lookup_exposed_builtIn`).
-/
import BuildProfiles.Proofs.CommandRun

namespace BuildProfiles

namespace Host

/-- The host in another environment. -/
def within (host : Host) (environment : Properties) : Host := { host with environment }

/-- The names of the system properties that are no variables. -/
def builtIn : List Text := ["os.name", "os.arch", "os.version", "user.dir", "java.version"]

variable {host : Host} {settings : Settings} {e e' : Properties} {name value : Text}

/-! ## Facts about the host -/

theorem facts_within (hjava : e.get? "JAVA_VERSION" = e'.get? "JAVA_VERSION") :
    (host.within e).facts = (host.within e').facts := by
  have hversion : javaVersion? e = javaVersion? e' := by rw [javaVersion?, javaVersion?, hjava]
  simp only [facts, within, hversion]

theorem mem_builtIn_of_mem_facts {entry : Text × Text} (h : entry ∈ host.facts) : entry.1 ∈ builtIn := by
  have hnames : host.facts.map Prod.fst ⊆ builtIn := by
    rw [facts]
    cases javaVersion? host.environment <;> simp [builtIn]
  exact hnames (List.mem_map_of_mem h)

theorem lookup_facts_of_not_builtIn (h : name ∉ builtIn) : host.facts.reverse.lookup name = none := by
  rw [List.lookup_eq_none_iff]
  intro entry hentry
  have hbuiltIn : entry.1 ∈ builtIn := mem_builtIn_of_mem_facts (List.mem_reverse.1 hentry)
  exact bne_iff_ne.2 fun heq => h (heq ▸ hbuiltIn)

/-! ## Exposed variables -/

theorem nodup_names_exposed (e : Properties) : ((exposed e).map Prod.fst).Nodup := by
  have hnames : (exposed e).map Prod.fst = (e.entries.map Prod.fst).map (("env." : Text) ++ ·) := by
    simp [exposed, Function.comp_def]
  rw [hnames]
  refine e.distinct.map fun _ _ h => ?_
  rw [← Text.toList_inj, Text.toList_append, Text.toList_append] at h
  exact Text.toList_inj.1 (List.append_cancel_left h)

/-- A variable is exposed under its name with `env.` in front, and with its value. -/
theorem lookup_exposed_iff :
    (exposed e).lookup name = some value ↔
      ∃ key : Text, name = "env." ++ key ∧ e.get? key = some value := by
  rw [lookup_eq_some_iff_mem (nodup_names_exposed e), exposed, List.mem_map]
  constructor
  · rintro ⟨⟨key, _⟩, hmem, hentry⟩
    cases hentry
    exact ⟨key, rfl, Properties.get?_eq_some_iff.2 hmem⟩
  · rintro ⟨key, rfl, h⟩
    exact ⟨(key, value), Properties.get?_eq_some_iff.1 h, rfl⟩

/-- No variable takes the place of a fact about the host. -/
theorem lookup_exposed_builtIn (h : name ∈ builtIn) : (exposed e).lookup name = none := by
  have hopens : ∀ name ∈ builtIn, ¬ ("env." : Text).toList <+: name.toList := by decide
  cases hlookup : (exposed e).lookup name with
  | none => rfl
  | some value =>
    obtain ⟨key, hname, -⟩ := lookup_exposed_iff.1 hlookup
    refine absurd ?_ (hopens name h)
    rw [hname, Text.toList_append]
    exact List.prefix_append _ _

/-! ## System properties -/

theorem get?_systemProperties_of_exposed (h : settings.exposeEnvironment = true) (name : Text) :
    (host.systemProperties settings).get? name =
      ((exposed host.environment).lookup name).or (host.facts.reverse.lookup name) := by
  have hentries : host.systemProperties settings = .ofList (host.facts ++ exposed host.environment) := by
    rw [systemProperties, h]
    rfl
  rw [hentries, Properties.ofList, Properties.get?_insertMany, List.reverse_append, List.lookup_append,
    Properties.lookup_reverse (nodup_names_exposed _), Properties.get?_empty, Option.or_none]

theorem get?_systemProperties_builtIn (h : settings.exposeEnvironment = true) (hname : name ∈ builtIn) :
    (host.systemProperties settings).get? name = host.facts.reverse.lookup name := by
  rw [get?_systemProperties_of_exposed h, lookup_exposed_builtIn hname, Option.none_or]

theorem get?_systemProperties_iff (h : settings.exposeEnvironment = true) (hname : name ∉ builtIn) :
    (host.systemProperties settings).get? name = some value ↔
      ∃ key : Text, name = "env." ++ key ∧ host.environment.get? key = some value := by
  rw [get?_systemProperties_of_exposed h, lookup_facts_of_not_builtIn hname, Option.or_none, lookup_exposed_iff]

theorem systemProperties_within (h : settings.exposeEnvironment = false)
    (hjava : e.get? "JAVA_VERSION" = e'.get? "JAVA_VERSION") :
    (host.within e).systemProperties settings = (host.within e').systemProperties settings := by
  have hentries : ∀ e, (host.within e).systemProperties settings = .ofList ((host.within e).facts ++ []) := by
    intro e
    rw [systemProperties, h]
    rfl
  rw [hentries, hentries, facts_within hjava]

end Host

namespace CommandLine

/-- The environment says that its variables are not to be seen. -/
def Hides (environment : Properties) : Prop :=
  ∃ text, environment.get? "EXPOSE_ENVIRONMENT" = some text ∧ Text.lower text ∉ [("true" : Text), "1", "yes"]

variable {validator : Validator} {host : Host} {settings : Settings} {e e' : Properties}

theorem Hides.exposeEnvironment (h : Hides e) : (Settings.ofEnvironment e).exposeEnvironment = false := by
  obtain ⟨text, htext, hother⟩ := h
  rw [Settings.ofEnvironment, htext, ← Bool.not_eq_true, List.contains_iff_mem]
  exact hother

theorem Hides.ofEnvironment_eq (h : Hides e) (h' : Hides e')
    (hlevel : e.get? "LOG_LEVEL" = e'.get? "LOG_LEVEL")
    (hfile : e.get? "PROFILES_FILE" = e'.get? "PROFILES_FILE") :
    Settings.ofEnvironment e = Settings.ofEnvironment e' := by
  have hexposed := h.exposeEnvironment.trans h'.exposeEnvironment.symm
  simp only [Settings.ofEnvironment] at hexposed ⊢
  rw [hlevel, hfile, hexposed]

theorem runResolve_within {threshold : Nat} {arguments : ResolveArguments}
    (h : (host.within e).systemProperties settings = (host.within e').systemProperties settings) :
    runResolve validator (host.within e) settings threshold arguments =
      runResolve validator (host.within e') settings threshold arguments := by
  have hcontext : ∀ file, context (host.within e) settings arguments file =
      context (host.within e') settings arguments file := by
    intro file
    rw [context, context, h]
    rfl
  simp only [runResolve, hcontext]
  rfl

/-- Environments that say the same of the settings and hide the rest lead to the
same run. -/
theorem run_within (hjava : e.get? "JAVA_VERSION" = e'.get? "JAVA_VERSION")
    (hlevel : e.get? "LOG_LEVEL" = e'.get? "LOG_LEVEL")
    (hfile : e.get? "PROFILES_FILE" = e'.get? "PROFILES_FILE") (hides : Hides e) (hides' : Hides e')
    (words : List Text) : run validator (host.within e) words = run validator (host.within e') words := by
  have hsettings : Settings.ofEnvironment (host.within e).environment =
      .ofEnvironment (host.within e').environment := hides.ofEnvironment_eq hides' hlevel hfile
  have hproperties : (host.within e).systemProperties (.ofEnvironment (host.within e').environment) =
      (host.within e').systemProperties (.ofEnvironment (host.within e').environment) :=
    Host.systemProperties_within hides'.exposeEnvironment hjava
  simp only [run, hsettings, runResolve_within hproperties]

/-- **What the environment hides does not show in a resolution, and what it exposes
cannot pass for a fact about the host.** Environments that hide their variables and
agree on the settings and the version of the JDK lead to the same ending and the same
output, wherever the command stands among the options. Exposed variables are system
properties under names of their own, and leave the others as they are. -/
theorem run_hidden_exposed (validator : Validator) (host : Host)
    (hjava : e.get? "JAVA_VERSION" = e'.get? "JAVA_VERSION") :
    (e.get? "LOG_LEVEL" = e'.get? "LOG_LEVEL" → e.get? "PROFILES_FILE" = e'.get? "PROFILES_FILE" →
      Hides e → Hides e' → ∀ before after : List (ResolveOption × Text),
        let words := before.map attachedWord ++ resolveName :: after.map attachedWord
        (run validator (host.within e) words).ending = (run validator (host.within e') words).ending ∧
          (run validator (host.within e) words).output = (run validator (host.within e') words).output) ∧
    ∀ settings settings' : Settings,
      settings.exposeEnvironment = true → settings'.exposeEnvironment = true →
        (∀ name ∈ Host.builtIn, ((host.within e).systemProperties settings).get? name =
          ((host.within e').systemProperties settings').get? name) ∧
        ∀ name ∉ Host.builtIn, ∀ value,
          ((host.within e).systemProperties settings).get? name = some value ↔
            ∃ key : Text, name = "env." ++ key ∧ e.get? key = some value := by
  refine ⟨fun hlevel hfile hides hides' before after => ?_, fun settings settings' h h' => ⟨?_, ?_⟩⟩
  · intro words
    rw [run_within hjava hlevel hfile hides hides']
    exact ⟨rfl, rfl⟩
  · intro name hname
    rw [Host.get?_systemProperties_builtIn h hname, Host.get?_systemProperties_builtIn h' hname,
      Host.facts_within hjava]
  · intro name hname value
    exact Host.get?_systemProperties_iff h hname

/-- The condition comes to a variable by way of a property of the user, and only one
of the environments has it. -/
theorem run_hidden_secret :
    let host := uniformHost <|
      "\x7b\"profiles\": [\x7b\"id\": \"ci\", \"activation\": "
        ++ "\x7b\"property\": \x7b\"name\": \"stage\", \"value\": \"$\x7bstage\x7d\"\x7d\x7d\x7d]\x7d"
    let e : Properties := .ofList [("JAVA_VERSION", "17"), ("EXPOSE_ENVIRONMENT", "OFF"), ("STAGE", "")]
    let e' : Properties := .ofList [("EXPOSE_ENVIRONMENT", "no"), ("os.name", "x"), ("JAVA_VERSION", "17")]
    let words : List Text := ["resolve", "--profiles=p.json", "--define=stage=$\x7benv.STAGE\x7d"]
    let settings : Settings := ⟨"WARNING", none, true⟩
    (e.get? "JAVA_VERSION" = e'.get? "JAVA_VERSION" ∧ e.get? "LOG_LEVEL" = e'.get? "LOG_LEVEL" ∧
        e.get? "PROFILES_FILE" = e'.get? "PROFILES_FILE" ∧ Hides e ∧ Hides e' ∧
        settings.exposeEnvironment = true) ∧
      (run .standard (host.within e) words).ending = (run .standard (host.within e') words).ending ∧
      (run .standard (host.within e) words).output = (run .standard (host.within e') words).output ∧
      ((host.within e).systemProperties settings).get? "os.name" =
        ((host.within e').systemProperties settings).get? "os.name" ∧
      ((host.within e).systemProperties settings).get? "env.STAGE" = some ("" : Text) := by
  intro host e e' words settings
  have hides : Hides e := ⟨"OFF", by decide, by decide +kernel⟩
  have hides' : Hides e' := ⟨"no", by decide, by decide +kernel⟩
  have hjava : e.get? "JAVA_VERSION" = e'.get? "JAVA_VERSION" := by decide
  have hlevel : e.get? "LOG_LEVEL" = e'.get? "LOG_LEVEL" := by decide
  have hfile : e.get? "PROFILES_FILE" = e'.get? "PROFILES_FILE" := by decide
  obtain ⟨hhidden, hexposed⟩ := run_hidden_exposed .standard host hjava
  obtain ⟨hending, houtput⟩ := hhidden hlevel hfile hides hides' []
    [(.profiles, "p.json"), (.definition, "stage=$\x7benv.STAGE\x7d")]
  obtain ⟨hfacts, hvariables⟩ := hexposed settings settings rfl rfl
  exact ⟨⟨hjava, hlevel, hfile, hides, hides', rfl⟩, hending, houtput, hfacts "os.name" (by decide),
    (hvariables "env.STAGE" (by decide) "").2 ⟨"STAGE", rfl, by decide⟩⟩

end CommandLine

end BuildProfiles
