import Recase.Cli.World

namespace Recase
namespace Cli

/-!
# What the steps of a command do

A command is written in terms of its effects.  Run on a model of its
surroundings, each of its steps is a function of these: what it gives, and what
they are afterwards.  There is one such function for each step, and
`outcome_runConvert` puts them together.

Nothing but the step that hands a text over changes a file or prints to the
standard output.  The options and the dump are found on the disk alone.  If a
text is refused, a part of it may have been taken before.
-/

/-! ## Steps in their order -/

/-- What an attempt gives in certain surroundings, and what these are
afterwards. -/
def outcome {α : Type} (attempt : Attempt (StateM World) α) (world : World) :
    Except Failure α × World :=
  (ExceptT.run attempt).run world

theorem outcome_pure {α : Type} (value : α) (world : World) :
    outcome (pure value) world = (.ok value, world) :=
  rfl

theorem outcome_bind {α β : Type} (attempt : Attempt (StateM World) α)
    (next : α -> Attempt (StateM World) β) (world : World) :
    outcome (attempt >>= next) world =
      match outcome attempt world with
      | (.ok value, after) => outcome (next value) after
      | (.error failure, after) => (.error failure, after) := by
  simp only [outcome, ExceptT.run_bind, StateT.run_bind]
  cases first : (ExceptT.run attempt).run world with
  | mk result after => cases result <;> rfl

/-- Go on with another step if all is well so far. -/
def goOn (ended : Except Failure Unit × World) (next : World -> Except Failure Unit × World) :
    Except Failure Unit × World :=
  match ended with
  | (.ok (), after) => next after
  | (.error failure, after) => (.error failure, after)

theorem goOn_ok (next : World -> Except Failure Unit × World) (done : Unit) (after : World) :
    goOn (.ok done, after) next = next after :=
  rfl

theorem outcome_step (attempt : Attempt (StateM World) Unit)
    (next : Unit -> Attempt (StateM World) Unit) (world : World) :
    outcome (attempt >>= next) world = goOn (outcome attempt world) (outcome (next ())) := by
  rw [outcome_bind]
  rcases outcome attempt world with ⟨_ | _, after⟩ <;> rfl

theorem outcome_effect {α β : Type} (effect : StateM World α)
    (next : α -> StateM World (Except Failure β)) (world : World) :
    outcome (ExceptT.mk (effect >>= next)) world =
      (next (effect.run world).1).run (effect.run world).2 :=
  rfl

/-! ## What is told -/

/-- The surroundings after some lines have been told to the user. -/
def World.told (world : World) (lines : List String) : World :=
  world.printError (String.join (lines.map (· ++ "\n")))

theorem World.told_nil (world : World) : world.told [] = world := by
  simp [told, printError]

theorem World.told_singleton (world : World) (line : String) :
    world.told [line] = world.printError (line ++ "\n") := by
  simp [told]

theorem World.told_told (world : World) (first second : List String) :
    (world.told first).told second = world.told (first ++ second) := by
  simp [told, printError, String.append_assoc]

/-- Actions that each tell a line tell all of their lines, one after the other.
A line may depend on the time. -/
theorem outcome_forM {α : Type} {action : α -> Attempt (StateM World) Unit}
    {line : String -> α -> String}
    (each : forall item world,
      outcome (action item) world = (.ok (), world.told [line world.stamp item]))
    (items : List α) (world : World) :
    outcome (items.forM action) world = (.ok (), world.told (items.map (line world.stamp))) := by
  induction items generalizing world with
  | nil => rw [List.map_nil, World.told_nil, List.forM_eq_forM, List.forM_nil, outcome_pure]
  | cons item others inductionHypothesis =>
      have kept : (world.told [line world.stamp item]).stamp = world.stamp := rfl
      rw [List.forM_eq_forM, List.forM_cons, outcome_bind, each, ← List.forM_eq_forM]
      simp only [inductionHypothesis, kept, World.told_told, List.map_cons, List.singleton_append]

theorem outcome_tell (line : String) (world : World) :
    outcome (tell line) world = (.ok (), world.told [line]) := by
  rw [World.told_singleton]
  rfl

theorem outcome_forM_tell (lines : List String) (world : World) :
    outcome (lines.forM tell) world = (.ok (), world.told lines) := by
  rw [@outcome_forM _ tell (fun _ line => line) outcome_tell, List.map_id']

/-- A line of the log with the time in front of it. -/
def stamped (stamp : String) (entry : Entry) : String :=
  stamp ++ " " ++ entry.line

theorem outcome_logEntries (verbose : Bool) (entries : List Entry) (world : World) :
    outcome (logEntries verbose entries) world =
      (.ok (), world.told
        ((entries.filter fun entry => entry.shown verbose).map (stamped world.stamp))) := by
  refine outcome_forM (fun entry world => ?_) _ world
  rw [World.told_singleton]
  rfl

/-! ## What is read -/

theorem outcome_readFile (file : String) (failure : FileFault -> Failure) (world : World) :
    outcome (readFile file failure) world =
      match world.disk.readText file with
      | .ok text => (.ok text, world)
      | .error fault => (.error (failure fault), world) := by
  have effect : (Host.readText (m := StateM World) file).run world =
    (world.disk.readText file, world) := rfl
  rw [readFile, outcome_effect, effect]
  cases world.disk.readText file <;> rfl

/-- The options of a request on a disk, before what is given on the command line
is taken into account. -/
def optionsOf (disk : Disk) : Option String -> Except Failure Options
  | none => .ok {}
  | some file =>
      match disk.readText file with
      | .error fault => .error (.configUnreadable file fault)
      | .ok text =>
          match Options.ofJson text with
          | .error diagnosis => .error (.configInvalid file diagnosis)
          | .ok options => .ok options

theorem outcome_loadOptions (config : Option String) (world : World) :
    outcome (loadOptions config) world = (optionsOf world.disk config, world) := by
  cases config with
  | none => rfl
  | some file =>
      rw [loadOptions, outcome_bind, outcome_readFile, optionsOf]
      cases read : world.disk.readText file with
      | error fault => rfl
      | ok text =>
          dsimp only
          cases Options.ofJson text <;> rfl

/-! ## What is written -/

/-- The standard output takes all of a text, or it has a limit and takes a
part. -/
theorem World.cases_print (world : World) (text : String) :
    world.print text = (.ok (), world.displayed text) ∨
      Exists fun limit => Exists fun taken =>
        world.outputLimit = some limit ∧ taken < text.length ∧
          world.print text =
            (.error limit.refusal, world.displayed (String.ofList (text.toList.take taken))) := by
  unfold print
  cases limited : world.outputLimit with
  | none => exact .inl rfl
  | some limit =>
      dsimp only
      split
      · exact .inl rfl
      · rename_i short
        exact .inr ⟨limit, _, rfl, Nat.not_le.mp short, rfl⟩

/-- A text is put into a file, or is printed if no file is given. -/
def World.delivered (world : World) (product : Product) (output : Option String)
    (text : String) : Except Failure Unit × World :=
  match output with
  | none =>
      let (result, after) := world.print (text ++ "\n")
      (result.mapError (.outputNotFilled product), after)
  | some file =>
      let (result, after) := world.writeText file (text ++ "\n")
      (result.mapError (.ofWriteFault product file), after)

theorem outcome_deliver (product : Product) (output : Option String) (text : String)
    (world : World) :
    outcome (deliver product output text) world = world.delivered product output text := by
  cases output <;> rfl

def World.summarized (world : World) (request : ConvertRequest) (conversion : Conversion) :
    Except Failure Unit × World :=
  match request.summary with
  | none => (.ok (), world)
  | some file =>
      world.delivered .json (some file)
        ((conversion.summary world.clock request.input).render .pretty)

theorem outcome_summarize (request : ConvertRequest) (conversion : Conversion) (world : World) :
    outcome (summarize request conversion) world = world.summarized request conversion := by
  unfold summarize World.summarized
  cases request.summary with
  | none => rfl
  | some file =>
      have time : outcome (ExceptT.lift (Host.time (m := StateM World))) world =
          (.ok world.clock, world) := rfl
      simp only [outcome_bind, time, outcome_deliver]

/-! ## A whole conversion -/

/-- What is found out before anything is handed over: the conversion, or why
there is none. -/
def World.prepared (world : World) (request : ConvertRequest) : Except Failure Conversion × World :=
  match optionsOf world.disk request.config with
  | .error failure => (.error failure, world)
  | .ok options =>
      match world.disk.readText request.input with
      | .error fault => (.error (.inputUnreadable request.input fault), world)
      | .ok dump =>
          let told := world.told ["Analyzing schema..."]
          match convert dump (request.adjust options) with
          | .error badName => (.error (.refused badName), told)
          | .ok conversion => (.ok conversion, told)

/-- What is told of a conversion before its script is handed over. -/
def foreword (stamp : String) (verbose : Bool) (conversion : Conversion) : List String :=
  ((conversionEntries conversion).filter fun entry => entry.shown verbose).map (stamped stamp) ++
    conversion.schema.listing

def written : Option String -> List String
  | none => []
  | some file => ["\nConversion script written: " ++ file]

def World.scripted (world : World) (request : ConvertRequest) (conversion : Conversion) :
    Except Failure Unit × World :=
  goOn (world.delivered .script request.output conversion.script) fun after =>
    (.ok (), after.told (written request.output))

/-- The script of a conversion is handed over, and then its summary. -/
def World.handOver (world : World) (request : ConvertRequest) (conversion : Conversion) :
    Except Failure Unit × World :=
  goOn (world.scripted request conversion) fun scripted =>
    goOn (scripted.summarized request conversion) fun final => (.ok (), final.told followUp)

/-- A conversion as a function of its surroundings. -/
def World.converted (world : World) (verbose : Bool) (request : ConvertRequest) :
    Except Failure Unit × World :=
  match world.prepared request with
  | (.error failure, told) => (.error failure, told)
  | (.ok conversion, told) =>
      (told.told (foreword world.stamp verbose conversion)).handOver request conversion

theorem outcome_ending (request : ConvertRequest) (conversion : Conversion) (world : World) :
    outcome (summarize request conversion >>= fun _ => followUp.forM tell) world =
      goOn (world.summarized request conversion) fun final => (.ok (), final.told followUp) := by
  rw [outcome_step, outcome_summarize, funext fun final => outcome_forM_tell followUp final]

theorem outcome_handOver (request : ConvertRequest) (conversion : Conversion) (world : World) :
    outcome
        (deliver .script request.output conversion.script >>= fun _ =>
          match request.output with
          | some file => do
              tell ("\nConversion script written: " ++ file)
              summarize request conversion
              followUp.forM tell
          | none => do
              summarize request conversion
              followUp.forM tell)
        world =
      world.handOver request conversion := by
  rw [outcome_step, outcome_deliver, World.handOver, World.scripted]
  rcases world.delivered .script request.output conversion.script with ⟨_ | _, after⟩
  · rfl
  · cases request.output with
    | none =>
        simp only [goOn_ok, written, World.told_nil]
        exact outcome_ending request conversion after
    | some file =>
        simp only [goOn_ok]
        rw [outcome_step, outcome_tell, goOn_ok]
        exact outcome_ending request conversion _

theorem outcome_runConvert (verbose : Bool) (request : ConvertRequest) (world : World) :
    outcome (runConvert verbose request) world = world.converted verbose request := by
  rw [runConvert, outcome_bind, outcome_loadOptions, World.converted, World.prepared]
  cases optionsOf world.disk request.config with
  | error failure => rfl
  | ok options =>
      simp only [outcome_bind, outcome_readFile]
      cases world.disk.readText request.input with
      | error fault => rfl
      | ok dump =>
          simp only [outcome_tell]
          cases convert dump (request.adjust options) with
          | error badName => rfl
          | ok conversion =>
              have kept : (world.told ["Analyzing schema..."]).stamp = world.stamp := rfl
              simp only [outcome_bind, outcome_logEntries, outcome_forM_tell, World.told_told, kept]
              have handed := outcome_handOver request conversion
                (world.told (["Analyzing schema..."] ++ foreword world.stamp verbose conversion))
              rw [outcome_bind] at handed
              exact handed

/-- The number that a command ends with, and the surroundings afterwards.  A
failure is reported to the user. -/
def ending : Except Failure Unit × World -> UInt32 × World
  | (.ok (), after) => (0, after)
  | (.error failure, after) => (1, after.printError failure.report)

def World.carryOut (world : World) (verbose : Bool) (request : ConvertRequest) :
    UInt32 × World :=
  ending (world.converted verbose request)

/-- Arguments that ask for a conversion have the program carry it out. -/
theorem World.run_eq_carryOut {arguments : List String} {verbose : Bool}
    {request : ConvertRequest}
    (asked : invocation arguments = .ok ⟨verbose, .convert request⟩) (world : World) :
    world.run arguments = world.carryOut verbose request := by
  rw [World.run, Cli.run, asked]
  simp only [Invocation.attempt, StateT.run_bind]
  change bind (m := Id) (outcome (runConvert verbose request) world) _ = _
  rw [World.carryOut, outcome_runConvert]
  cases world.converted verbose request with
  | mk result after => cases result <;> rfl

/-! ## How a conversion ends -/

theorem World.exists_told_prepared (world : World) (request : ConvertRequest) :
    Exists fun lines => (world.prepared request).2 = world.told lines := by
  unfold prepared
  cases optionsOf world.disk request.config with
  | error failure => exact ⟨[], world.told_nil.symm⟩
  | ok options =>
      cases world.disk.readText request.input with
      | error fault => exact ⟨[], world.told_nil.symm⟩
      | ok dump =>
          refine ⟨["Analyzing schema..."], ?_⟩
          dsimp only
          cases convert dump (request.adjust options) <;> rfl

/-- The four ways in which a conversion ends: nothing is found out that could be
handed over, or the script is not handed over, or the summary is not, or all is
well. -/
inductive World.Carried (world : World) (verbose : Bool) (request : ConvertRequest) :
    UInt32 × World -> Prop where
  | unprepared {failure : Failure} {lines : List String}
      (prepared : world.prepared request = (.error failure, world.told lines)) :
      Carried world verbose request (1, (world.told lines).printError failure.report)
  | unscripted {conversion : Conversion} {lines : List String} {failure : Failure} {after : World}
      (prepared : world.prepared request = (.ok conversion, world.told lines))
      (failed : (world.told (lines ++ foreword world.stamp verbose conversion)).scripted request
        conversion = (.error failure, after)) :
      Carried world verbose request (1, after.printError failure.report)
  | unsummarized {conversion : Conversion} {lines : List String} {scripted after : World}
      {failure : Failure} (prepared : world.prepared request = (.ok conversion, world.told lines))
      (handed : (world.told (lines ++ foreword world.stamp verbose conversion)).scripted request
        conversion = (.ok (), scripted))
      (failed : scripted.summarized request conversion = (.error failure, after)) :
      Carried world verbose request (1, after.printError failure.report)
  | finished {conversion : Conversion} {lines : List String} {scripted final : World}
      (prepared : world.prepared request = (.ok conversion, world.told lines))
      (handed : (world.told (lines ++ foreword world.stamp verbose conversion)).scripted request
        conversion = (.ok (), scripted))
      (summarized : scripted.summarized request conversion = (.ok (), final)) :
      Carried world verbose request (0, final.told followUp)

theorem World.carried (world : World) (verbose : Bool) (request : ConvertRequest) :
    world.Carried verbose request (world.carryOut verbose request) := by
  rcases world.exists_told_prepared request with ⟨lines, told⟩
  rw [carryOut, converted]
  cases prepared : world.prepared request with
  | mk result before =>
      obtain rfl : before = world.told lines := by rw [← told, prepared]
      cases result with
      | error failure => exact .unprepared prepared
      | ok conversion =>
          simp only [told_told, handOver]
          rcases handed : (world.told (lines ++ foreword world.stamp verbose conversion)).scripted
              request conversion with ⟨failure | _, after⟩
          · exact .unscripted prepared handed
          · rw [goOn_ok]
            rcases summarized : after.summarized request conversion with ⟨failure | _, final⟩
            · exact .unsummarized prepared handed summarized
            · exact .finished prepared handed summarized

end Cli
end Recase
