import Recase.Proofs.Cli.Steps
import Recase.Proofs.Disk
import Recase.Proofs.Options.RoundTrip

namespace Recase
namespace Cli

/-!
# Options on the command line and in a file

What is said on the command line can be said in a file of options as well: a
request with a schema and with excluded tables does the same as one that only
names a file in which the options have this schema and these tables.

The two requests are run in surroundings of their own, since their files of
options may be one and the same file with two contents.  What they have in
common is that their disks are alike.  Both runs then take the same steps: a
step that fails does so in both, and for the same reason, and a step that
writes puts the same text to the same place.  So the disks stay alike, and each
file that the disks agree on, or that is changed, is the same afterwards.
-/

/-- Two surroundings are alike if their disks are. -/
structure World.Alike (hidden : Way -> Prop) (one other : World) : Prop where
  disk : Disk.Alike hidden one.disk other.disk
  clock : one.clock = other.clock
  output : one.output = other.output
  errors : one.errors = other.errors
  outputLimit : one.outputLimit = other.outputLimit

/-- Two runs are in step if their surroundings are alike, as those were at the
start, and if they agree on all files that they agreed on then, and on all that
have changed.  The way that a name leads to is what it was. -/
structure InStep (hidden : Way -> Prop) (first second one other : World) : Prop where
  alike : World.Alike hidden one other
  settled : forall way,
    first.disk.bytes? way = second.disk.bytes? way ∨
        one.disk.bytes? way ≠ first.disk.bytes? way ->
      one.disk.bytes? way = other.disk.bytes? way
  leads : one.disk.leads = first.disk.leads
  start : one.disk.start = first.disk.start

/-- Two steps end in step if they give the same, and if both runs are in step
afterwards. -/
def EndInStep {Result : Type} (hidden : Way -> Prop) (first second : World)
    (left right : Result × World) : Prop :=
  left.1 = right.1 ∧ InStep hidden first second left.2 right.2

namespace InStep

variable {hidden : Way -> Prop} {first second one other : World}

theorem refl (alike : World.Alike hidden first second) :
    InStep hidden first second first second where
  alike := alike
  settled := fun _ agreed => agreed.resolve_right fun changed => changed rfl
  leads := rfl
  start := rfl

theorem keepsClear (inStep : InStep hidden first second one other) {name : String}
    (clear : first.disk.KeepsClear hidden name) : one.disk.KeepsClear hidden name := by
  unfold Disk.KeepsClear
  rw [inStep.leads, inStep.start]
  exact clear

/-! ## Steps that both runs take -/

theorem displayed (inStep : InStep hidden first second one other) (text : String) :
    InStep hidden first second (one.displayed text) (other.displayed text) where
  alike := { inStep.alike with output := congrArg (· ++ text) inStep.alike.output }
  settled := inStep.settled
  leads := inStep.leads
  start := inStep.start

theorem printError (inStep : InStep hidden first second one other) (text : String) :
    InStep hidden first second (one.printError text) (other.printError text) where
  alike := { inStep.alike with errors := congrArg (· ++ text) inStep.alike.errors }
  settled := inStep.settled
  leads := inStep.leads
  start := inStep.start

theorem told (inStep : InStep hidden first second one other) (lines : List String) :
    InStep hidden first second (one.told lines) (other.told lines) :=
  inStep.printError _

/-- The same file is put on both disks. -/
theorem file (inStep : InStep hidden first second one other) (way : Way) (bytes : ByteArray) :
    InStep hidden first second { one with disk := one.disk.put way bytes }
      { other with disk := other.disk.put way bytes } where
  alike := { inStep.alike with disk := inStep.alike.disk.put way bytes }
  settled := by
    intro next agreed
    dsimp only at agreed ⊢
    by_cases here : next = way
    · rw [here, Disk.bytes?_put_self, Disk.bytes?_put_self]
    · rw [Disk.bytes?_put_of_ne _ here] at agreed ⊢
      rw [Disk.bytes?_put_of_ne _ here]
      exact inStep.settled next agreed
  leads := (Disk.leads_put _ _ _).trans inStep.leads
  start := (Disk.start_put _ _ _).trans inStep.start

theorem print (inStep : InStep hidden first second one other) (text : String) :
    EndInStep hidden first second (one.print text) (other.print text) := by
  unfold World.print
  rw [← inStep.alike.outputLimit, ← inStep.alike.output]
  cases one.outputLimit with
  | none => exact ⟨rfl, inStep.displayed text⟩
  | some limit =>
      dsimp only
      split
      · exact ⟨rfl, inStep.displayed text⟩
      · exact ⟨rfl, inStep.displayed _⟩

theorem put (inStep : InStep hidden first second one other) (way : Way) (text : String) :
    EndInStep hidden first second (one.put way text) (other.put way text) := by
  unfold World.put
  rw [← inStep.alike.disk.device?]
  cases one.disk.device? way with
  | none =>
      unfold Disk.fill
      rw [← inStep.alike.disk.exceeded?]
      cases one.disk.exceeded? way text.utf8ByteSize with
      | none => exact ⟨rfl, inStep.file way _⟩
      | some limit => exact ⟨rfl, inStep.file way _⟩
  | some device =>
      cases device with
      | unconnected => exact ⟨rfl, inStep⟩
      | full => exact ⟨rfl, inStep⟩
      | sink => exact ⟨rfl, inStep⟩
      | output =>
          have ends := inStep.print text
          exact ⟨congrArg (Except.mapError WriteFault.notFilled) ends.1, ends.2⟩
      | errors => exact ⟨rfl, inStep.printError text⟩

theorem writeText (inStep : InStep hidden first second one other) {name : String}
    (clear : first.disk.KeepsClear hidden name) (text : String) :
    EndInStep hidden first second (one.writeText name text) (other.writeText name text) := by
  unfold World.writeText
  rw [← inStep.alike.disk.target (inStep.keepsClear clear)]
  cases one.disk.target name with
  | error fault => exact ⟨rfl, inStep⟩
  | ok way => exact inStep.put way text

theorem delivered (inStep : InStep hidden first second one other) (product : Product)
    {output : Option String}
    (clear : forall name, output = some name -> first.disk.KeepsClear hidden name)
    (text : String) :
    EndInStep hidden first second (one.delivered product output text)
      (other.delivered product output text) := by
  unfold World.delivered
  cases output with
  | none =>
      have ends := inStep.print (text ++ "\n")
      exact ⟨congrArg (Except.mapError (Failure.outputNotFilled product)) ends.1, ends.2⟩
  | some name =>
      have ends := inStep.writeText (clear name rfl) (text ++ "\n")
      exact ⟨congrArg (Except.mapError (Failure.ofWriteFault product name)) ends.1, ends.2⟩

/-- Steps in step are followed by steps in step. -/
theorem goOn {left right : Except Failure Unit × World}
    {next : World -> Except Failure Unit × World} (ends : EndInStep hidden first second left right)
    (later : forall one other, InStep hidden first second one other ->
      EndInStep hidden first second (next one) (next other)) :
    EndInStep hidden first second (Cli.goOn left next) (Cli.goOn right next) := by
  rcases left with ⟨result, one⟩
  rcases right with ⟨otherResult, other⟩
  rcases ends with ⟨same, inStep⟩
  obtain rfl : result = otherResult := same
  cases result with
  | ok _ => exact later one other inStep
  | error failure => exact ⟨rfl, inStep⟩

theorem scripted (inStep : InStep hidden first second one other) {request : ConvertRequest}
    (clear : forall name, request.output = some name -> first.disk.KeepsClear hidden name)
    (conversion : Conversion) :
    EndInStep hidden first second (one.scripted request conversion)
      (other.scripted request conversion) :=
  goOn (inStep.delivered .script clear conversion.script) fun _ _ inStep =>
    ⟨rfl, inStep.told _⟩

theorem summarized (inStep : InStep hidden first second one other) {request : ConvertRequest}
    (clear : forall name, request.summary = some name -> first.disk.KeepsClear hidden name)
    (conversion : Conversion) :
    EndInStep hidden first second (one.summarized request conversion)
      (other.summarized request conversion) := by
  unfold World.summarized
  rw [← inStep.alike.clock]
  cases given : request.summary with
  | none => exact ⟨rfl, inStep⟩
  | some name => exact inStep.delivered .json (fun _ named => clear _ (given.trans named)) _

/-- Both runs hand over the same, and end alike. -/
theorem handOver (inStep : InStep hidden first second one other) {request : ConvertRequest}
    (clearOutput : forall name, request.output = some name -> first.disk.KeepsClear hidden name)
    (clearSummary : forall name, request.summary = some name ->
      first.disk.KeepsClear hidden name)
    (conversion : Conversion) :
    EndInStep hidden first second (one.handOver request conversion)
      (other.handOver request conversion) :=
  goOn (inStep.scripted clearOutput conversion) fun _ _ inStep =>
    goOn (inStep.summarized clearSummary conversion) fun _ _ inStep => ⟨rfl, inStep.told _⟩

/-- Runs with the same result end with the same number and report the same. -/
theorem ending {left right : Except Failure Unit × World}
    (ends : EndInStep hidden first second left right) :
    EndInStep hidden first second (Cli.ending left) (Cli.ending right) := by
  rcases left with ⟨result, one⟩
  rcases right with ⟨otherResult, other⟩
  rcases ends with ⟨same, inStep⟩
  obtain rfl : result = otherResult := same
  cases result with
  | ok _ => exact ⟨rfl, inStep⟩
  | error failure => exact ⟨rfl, inStep.printError _⟩

end InStep

/-- Both runs find out the same if one has the options that the other is given
on its command line. -/
theorem World.prepared_eq {first second : World} {request : ConvertRequest} {file : String}
    (sameInput : first.disk.readText request.input = second.disk.readText request.input)
    {options : Options} (loaded : optionsOf first.disk request.config = .ok options)
    (merged : optionsOf second.disk (some file) = .ok (request.adjust options)) :
    Exists fun result => Exists fun lines =>
      first.prepared request = (result, first.told lines) ∧
        second.prepared { request with config := some file, schema := none, exclude := [] } =
          (result, second.told lines) := by
  have adjusted : ({ request with config := some file, schema := none, exclude := [] } :
      ConvertRequest).adjust (request.adjust options) = request.adjust options := rfl
  simp only [World.prepared, loaded, merged, adjusted, ← sameInput]
  cases first.disk.readText request.input with
  | error fault => exact ⟨_, [], by rw [told_nil], by rw [told_nil]⟩
  | ok dump =>
      dsimp only
      cases convert dump (request.adjust options) <;>
        exact ⟨_, ["Analyzing schema..."], rfl, rfl⟩

/-- Requests with the same options, one of which has them from a file alone,
are carried out in step. -/
theorem InStep.carryOut {hidden : Way -> Prop} {first second : World}
    (alike : World.Alike hidden first second) {verbose : Bool} {request : ConvertRequest}
    {file : String}
    (clearOutput : forall name, request.output = some name -> first.disk.KeepsClear hidden name)
    (clearSummary : forall name, request.summary = some name ->
      first.disk.KeepsClear hidden name)
    (sameInput : first.disk.readText request.input = second.disk.readText request.input)
    {options : Options} (loaded : optionsOf first.disk request.config = .ok options)
    (merged : optionsOf second.disk (some file) = .ok (request.adjust options)) :
    EndInStep hidden first second (first.carryOut verbose request)
      (second.carryOut verbose
        { request with config := some file, schema := none, exclude := [] }) := by
  rcases World.prepared_eq sameInput loaded merged with ⟨result, lines, prepared, otherPrepared⟩
  have inStep := (InStep.refl alike).told lines
  have stamp : first.stamp = second.stamp := by
    rw [World.stamp, World.stamp, alike.clock]
  simp only [World.carryOut, World.converted, prepared, otherPrepared, ← stamp]
  apply InStep.ending
  cases result with
  | error failure => exact ⟨rfl, inStep⟩
  | ok conversion =>
      exact (inStep.told (foreword first.stamp verbose conversion)).handOver clearOutput
        clearSummary conversion

/-- A request with options on its command line does what a request does that
only names a file with these options: it ends with the same number, prints the
same on both outputs, and leaves the same in all files that were the same before
and in all that it has changed.  The file may lay out the options in any way,
and the files of options themselves need not be the same on both disks. -/
theorem run_options_given_or_filed {arguments others : List String} {verbose : Bool}
    {request : ConvertRequest} {file : String}
    (asked : invocation arguments = .ok ⟨verbose, .convert request⟩)
    (otherAsked : invocation others = .ok ⟨verbose, .convert
      { request with config := some file, schema := none, exclude := [] }⟩)
    {first second : World} {hidden : Way -> Prop} (alike : World.Alike hidden first second)
    (clearOutput : forall name, request.output = some name -> first.disk.KeepsClear hidden name)
    (clearSummary : forall name, request.summary = some name ->
      first.disk.KeepsClear hidden name)
    (sameInput : first.disk.readText request.input = second.disk.readText request.input)
    {options : Options} (loaded : optionsOf first.disk request.config = .ok options)
    {text blanks : List Char}
    (laid : Json.Laid
      (Options.toJson
        { schema := request.schema.getD options.schema
          excluded := if request.exclude = [] then options.excluded else request.exclude
          relationships := options.relationships
          permissionNotes := options.permissionNotes })
      text)
    (gap : Json.IsGap blanks)
    (filed : second.disk.readText file = .ok (String.ofList (text ++ blanks))) :
    let one := first.run arguments
    let other := second.run others
    one.1 = other.1 ∧ one.2.output = other.2.output ∧ one.2.errors = other.2.errors ∧
      Disk.Alike hidden one.2.disk other.2.disk ∧
        forall way,
          first.disk.bytes? way = second.disk.bytes? way ∨
              one.2.disk.bytes? way ≠ first.disk.bytes? way ->
            one.2.disk.bytes? way = other.2.disk.bytes? way := by
  have merged : optionsOf second.disk (some file) = .ok (request.adjust options) := by
    have same : request.adjust options =
        { schema := request.schema.getD options.schema
          excluded := if request.exclude = [] then options.excluded else request.exclude
          relationships := options.relationships
          permissionNotes := options.permissionNotes } := by
      cases given : request.exclude <;> simp [ConvertRequest.adjust, given]
    rw [optionsOf, filed, same]
    simp only [Options.ofJson_laid laid gap]
  rw [World.run_eq_carryOut asked, World.run_eq_carryOut otherAsked]
  rcases InStep.carryOut alike clearOutput clearSummary sameInput loaded merged with
    ⟨sameEnd, inStep⟩
  exact ⟨sameEnd, inStep.alike.output, inStep.alike.errors, inStep.alike.disk, inStep.settled⟩

/-- Options from a file, with a schema and an excluded table on the command
line, and the file that has all of it. -/
theorem run_options_given_or_filed_for_hotels :
    let options : Options := { relationships := [], permissionNotes := ["ask"] }
    let merged : Options := { options with schema := "app", excluded := ["hotels"] }
    let world : World :=
      { disk :=
          { files :=
              [(["tmp", "a.sql"], "CREATE TABLE room_types (\n);".toUTF8),
               (["tmp", "old.json"], options.toJson.compact.toUTF8),
               (["tmp", "new.json"], merged.toJson.compact.toUTF8)]
            working := ["tmp"] }
        clock := "now" }
    let one := world.run
      ["convert", "a.sql", "-o", "b.sql", "--config", "old.json", "--schema", "app",
        "--exclude", "hotels"]
    let other := world.run ["convert", "a.sql", "-o", "b.sql", "--config", "new.json"]
    one.1 = other.1 ∧ one.2.output = other.2.output ∧ one.2.errors = other.2.errors ∧
      forall way, one.2.disk.bytes? way = other.2.disk.bytes? way := by
  intro options merged world one other
  let request : ConvertRequest :=
    { input := "a.sql", output := some "b.sql", config := some "old.json", schema := some "app"
      exclude := ["hotels"], summary := none }
  have asked : invocation
      ["convert", "a.sql", "-o", "b.sql", "--config", "old.json", "--schema", "app",
        "--exclude", "hotels"] = .ok ⟨false, .convert request⟩ := by rfl
  have otherAsked : invocation ["convert", "a.sql", "-o", "b.sql", "--config", "new.json"] =
      .ok ⟨false, .convert
        { request with config := some "new.json", schema := none, exclude := [] }⟩ := by rfl
  have alike : World.Alike (fun _ => False) world world :=
    { disk :=
        { working := rfl, devices := rfl, links := rfl, reserved := rfl, limits := rfl
          directories := fun _ => rfl
          present := fun _ _ => rfl }
      clock := rfl, output := rfl, errors := rfl, outputLimit := rfl }
  have clear (name : String) : world.disk.KeepsClear (fun _ => False) name :=
    fun _ _ impossible => impossible
  have readOld : world.disk.readText "old.json" = .ok options.toJson.compact := by
    decide +kernel
  have readNew : world.disk.readText "new.json" =
      .ok (String.ofList (merged.toJson.compactChars ++ [])) := by
    decide +kernel
  have parsed : Options.ofJson options.toJson.compact = .ok options := by
    have read := Options.ofJson_laid (Json.laid_compactChars options.toJson) Json.isGap_nil
    rwa [List.append_nil] at read
  have loaded : optionsOf world.disk (some "old.json") = .ok options := by
    rw [optionsOf, readOld]
    simp only [parsed]
  rcases run_options_given_or_filed asked otherAsked alike (fun name _ => clear name)
      (fun name _ => clear name) rfl loaded (Json.laid_compactChars merged.toJson) Json.isGap_nil
      readNew with
    ⟨sameEnd, output, errors, -, settled⟩
  exact ⟨sameEnd, output, errors, fun way => settled way (.inl rfl)⟩

end Cli
end Recase
