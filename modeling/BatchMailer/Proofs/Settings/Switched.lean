import BatchMailer.CommandLine

/-!
# BatchMailer.Proofs.Settings.Switched

The debug switch on its way from the arguments and the environment into the
configuration.

The variable of the switch decides the switch and nothing else
(`Settings.load_of_same`).  The option for it wins over whatever the environment
and a file of assignments hold under that variable (`CommandLine.plan_of_debug`),
and where arguments lead to a run at all, the option is in force if it is among
them (`CommandLine.debug_of_mem_arguments`).
-/

namespace BatchMailer

/-! ## environments that differ in the switch -/

/-- Two environments with the same variables, the debug switch aside. -/
def Environment.SameButDebug (e f : Environment) : Prop :=
  ∀ name, name ≠ Settings.debugVariable → f.get? name = e.get? name

namespace Settings

/-- The same configuration with the debug switch off. -/
def live (s : Settings) : Settings := { s with debug := false }

/-- What a configuration that can be used was read from. -/
theorem eq_of_load {e : Environment} {s : Settings} (h : load e = .ok s) :
    e.bool debugVariable false = .ok s.debug ∧
      e.seconds "MF_SES_CONNECT_TIMEOUT_SECONDS" "10" = .ok s.connectTimeout ∧
      e.seconds "MF_SES_READ_TIMEOUT_SECONDS" "30" = .ok s.readTimeout ∧
      s = { s with
        configurationSet := (e.get? "MF_SES_CONFIG_SET").getD "default"
        source := (e.get? "MF_SES_SOURCE").getD "noreply@localhost"
        outputDir := (e.get? "MF_SES_OUTPUT_PATH").getD "./output"
        replyTo := e.items "MF_SES_REPLY_TO"
        endpoint := e.trimmed? "MF_SES_ENDPOINT_URL"
        region := (e.trimmed? "AWS_REGION").or (e.trimmed? "AWS_DEFAULT_REGION") } := by
  rw [load] at h
  cases hdebug : e.bool debugVariable false with
  | error error => rw [hdebug] at h; contradiction
  | ok debug =>
      cases hconnect : e.seconds "MF_SES_CONNECT_TIMEOUT_SECONDS" "10" with
      | error error => rw [hdebug, hconnect] at h; contradiction
      | ok connectTimeout =>
          cases hread : e.seconds "MF_SES_READ_TIMEOUT_SECONDS" "30" with
          | error error => rw [hdebug, hconnect, hread] at h; contradiction
          | ok readTimeout =>
              rw [hdebug, hconnect, hread] at h
              rw [← Except.ok.inj h]
              exact ⟨rfl, rfl, rfl, rfl⟩

/-- Such environments describe configurations that differ in the switch alone. -/
theorem load_of_same {e f : Environment} (hsame : e.SameButDebug f) {debug : Bool}
    (hf : f.bool debugVariable false = .ok debug) {s : Settings} (h : load e = .ok s) :
    load f = .ok { s with debug } := by
  have hseconds : ∀ name default, name ≠ debugVariable →
      f.seconds name default = e.seconds name default := by
    intro name default hname
    rw [Environment.seconds, hsame name hname, Environment.seconds]
  have htrimmed : ∀ name, name ≠ debugVariable → f.trimmed? name = e.trimmed? name := by
    intro name hname
    rw [Environment.trimmed?, hsame name hname, Environment.trimmed?]
  have hitems : ∀ name, name ≠ debugVariable → f.items name = e.items name := by
    intro name hname
    rw [Environment.items, htrimmed name hname, Environment.items]
  obtain ⟨-, hconnect, hread, hs⟩ := eq_of_load h
  rw [load, hf, hseconds _ _ (by decide), hseconds _ _ (by decide), hconnect, hread,
    hsame _ (by decide), hsame _ (by decide), hsame _ (by decide), hitems _ (by decide),
    htrimmed _ (by decide), htrimmed _ (by decide), htrimmed _ (by decide), hs]
  rfl

end Settings

/-- Turned on again, a configuration is what it was. -/
theorem Settings.live_debug {s : Settings} (h : s.debug = true) :
    { s.live with debug := true } = s := by
  rw [live, ← h]

/-- The word that the option stands for turns the switch on. -/
theorem Environment.bool_set_debug (e : Environment) :
    (e.set Settings.debugVariable "true").bool Settings.debugVariable false = .ok true := by
  have hword : smallLetters (Text.trim "true") ∈ wordsForOn := by decide
  rw [bool, get?_set, if_pos rfl]
  exact if_pos hword

/-! ## the option among the arguments -/

namespace CommandLine

/-- Arguments that are right name no unknown option and leave no value to spare, and
the debug option is in force if it is among them. -/
theorem follow_eq_ok {o p : Options} {spare : Bool} {read : List Argument}
    (h : follow o spare read = .ok p) :
    spare = false ∧ .unknown ∉ read ∧
      (o.debug = true ∨ .option .debug none ∈ read → p.debug = true) := by
  fun_induction follow o spare read <;> simp_all

/-- The debug option is read as such, unless it stands behind two dashes alone. -/
theorem mem_readArguments_of_debug {arguments : List String} (h : "--debug" ∈ arguments) :
    .unknown ∈ readArguments arguments ∨ .option .debug none ∈ readArguments arguments := by
  induction arguments with
  | nil => contradiction
  | cons text rest ih =>
      rw [readArguments]
      by_cases hdashes : text = "--"
      · rw [if_pos hdashes]
        exact .inl List.mem_cons_self
      · rw [if_neg hdashes]
        obtain rfl | hrest := List.mem_cons.1 h
        · have hread : readArgument "--debug" = .option .debug none := by decide
          rw [hread]
          exact .inr List.mem_cons_self
        · exact (ih hrest).imp (List.mem_cons_of_mem _) (List.mem_cons_of_mem _)

/-- Where arguments lead to options, the debug option is in force if it is among
them. -/
theorem debug_of_mem_arguments {arguments : List String} {o : Options}
    (h : Options.parse arguments = .ok o) (hmem : "--debug" ∈ arguments) : o.debug = true := by
  rw [Options.parse] at h
  split at h
  · contradiction
  · obtain ⟨-, hknown, hdebug⟩ := follow_eq_ok h
    exact hdebug (.inr ((mem_readArguments_of_debug hmem).resolve_left hknown))

/-- What the sending program goes by when the debug option is in force: the switch
is on, whatever the environment and the file of assignments say. -/
theorem plan_of_debug {arguments : List String} {o : Options}
    (hparse : Options.parse arguments = .ok o) (hdebug : o.debug = true) {e loaded : Environment}
    {files : FileTree} (hload : o.envFile.load files e = .ok loaded) {level : Nat}
    (hlevel : threshold o.logLevel loaded = .ok level) :
    Plan.of arguments e files =
      .ok { level, settings := Settings.load (loaded.set Settings.debugVariable "true") } := by
  have henvironment :
      environmentFor o e files = .ok (loaded.set Settings.debugVariable "true") := by
    rw [environmentFor, hload, hdebug]
    rfl
  have hthreshold :
      threshold o.logLevel (loaded.set Settings.debugVariable "true") = .ok level := by
    rw [← hlevel, threshold, threshold, Environment.get?_set, if_neg (by decide)]
  calc Plan.of arguments e files
      = (environmentFor o e files).bind fun e =>
          ((threshold o.logLevel e).mapError .logLevel).bind fun level =>
            .ok { level, settings := Settings.load e } := by
        rw [Plan.of, hparse]
        rfl
    _ = ((threshold o.logLevel (loaded.set Settings.debugVariable "true")).mapError .logLevel).bind
          fun level => .ok
            { level, settings := Settings.load (loaded.set Settings.debugVariable "true") } := by
        rw [henvironment]
        rfl
    _ = .ok { level, settings := Settings.load (loaded.set Settings.debugVariable "true") } := by
        rw [hthreshold]
        rfl

end CommandLine

end BatchMailer
