import Recase.Proofs.Cli.Steps
import Recase.Proofs.Disk
import Recase.Proofs.Json.Decoding
import Recase.Proofs.Report

namespace Recase
namespace Cli

/-!
# What a successful conversion delivers

A conversion that ends with zero has put its script and its report where they
were asked for, the script first.  The standard output holds what was sent
there, and nothing else.  A text that was put into a file is read back as it was
made.  The exceptions are those of the files themselves: of two texts in one
file the later one is left, and what goes to a device is in no file.  Nothing is
asked of the dump, whose own file may be overwritten by either output.
-/

/-! ## One text -/

/-- What the standard output has taken in full has been shown. -/
theorem World.eq_displayed_of_print {world after : World} {text : String}
    (printed : world.print text = (.ok (), after)) : after = world.displayed text := by
  rcases world.cases_print text with all | ⟨_, _, _, _, broken⟩
  · rw [all] at printed
    exact (congrArg Prod.snd printed).symm
  · rw [broken] at printed
    cases printed

/-- A text that is put into a file goes where the name of the file leads. -/
theorem World.put_of_delivered {world after : World} {product : Product} {name text : String}
    (delivered : world.delivered product (some name) text = (.ok (), after)) :
    world.disk.target name = .ok (world.disk.destination name) ∧
      world.put (world.disk.destination name) (text ++ "\n") = (.ok (), after) := by
  simp only [World.delivered, World.writeText] at delivered
  cases targeted : world.disk.target name with
  | error fault =>
      rw [targeted] at delivered
      cases delivered
  | ok way =>
      obtain rfl := Disk.eq_destination_of_resolve (Disk.resolve_of_target targeted)
      refine ⟨rfl, ?_⟩
      simp only [targeted] at delivered
      rcases put : world.put (world.disk.destination name) (text ++ "\n") with ⟨fault | _, last⟩
      · simp only [put] at delivered
        cases delivered
      · simp only [put] at delivered
        obtain rfl : last = after := congrArg Prod.snd delivered
        rfl

/-- What a text changes that has been put to a way: the file, or else one of the
outputs. -/
theorem World.cases_of_put {world after : World} {way : Way} {text : String}
    (put : world.put way text = (.ok (), after)) :
    (world.disk.device? way = none ∧
        after = { world with disk := world.disk.put way text.toUTF8 }) ∨
      (Exists fun device => world.disk.device? way = some device ∧ after.disk = world.disk ∧
        after.output = world.output ++ if device = .output then text else "") := by
  unfold World.put at put
  cases found : world.disk.device? way with
  | none =>
      simp only [found, Disk.fill] at put
      cases exceeded : world.disk.exceeded? way text.utf8ByteSize with
      | none =>
          rw [exceeded] at put
          exact .inl ⟨rfl, (congrArg Prod.snd put).symm⟩
      | some limit =>
          rw [exceeded] at put
          cases put
  | some device =>
      rw [found] at put
      refine .inr ⟨device, rfl, ?_⟩
      cases device with
      | unconnected => cases put
      | full => cases put
      | sink =>
          obtain rfl := congrArg Prod.snd put
          exact ⟨rfl, String.append_empty.symm⟩
      | output =>
          rcases printed : world.print text with ⟨refusal | _, last⟩
          · simp only [printed] at put
            cases put
          · simp only [printed] at put
            obtain rfl := congrArg Prod.snd put
            rw [World.eq_displayed_of_print printed]
            exact ⟨rfl, rfl⟩
      | errors =>
          obtain rfl := congrArg Prod.snd put
          exact ⟨rfl, String.append_empty.symm⟩

/-- What is sent to the standard output when a text is put into a file. -/
def printedInto (disk : Disk) (name text : String) : String :=
  if disk.device? (disk.destination name) = some .output then text else ""

/-- What is known of the surroundings before and after a text has been put into
a file. -/
structure Filed (name text : String) (before after : World) : Prop where
  held : before.disk.device? (before.disk.destination name) = none -> after.disk.Holds name text
  kept : forall other otherText, before.disk.Holds other otherText ->
    before.disk.destination other ≠ before.disk.destination name ->
      after.disk.Holds other otherText
  printed : after.output = before.output ++ printedInto before.disk name text
  destination : after.disk.destination = before.disk.destination
  device? : after.disk.device? = before.disk.device?

theorem World.filed_of_delivered {world after : World} {product : Product} {name text : String}
    (delivered : world.delivered product (some name) text = (.ok (), after)) :
    Filed name (text ++ "\n") world after := by
  rcases World.put_of_delivered delivered with ⟨targeted, put⟩
  rcases World.cases_of_put put with ⟨isFile, rfl⟩ | ⟨device, found, disk, printed⟩
  · exact
      { held := fun _ => Disk.holds_put targeted isFile _
        kept := fun _ _ holds apart => holds.put apart _
        printed := by simp [printedInto, isFile]
        destination := Disk.destination_put _ _ _
        device? := funext fun other => Disk.device?_put _ _ other _ }
  · exact
      { held := fun isFile => by cases isFile.symm.trans found
        kept := fun _ _ holds _ => disk ▸ holds
        printed := by simp [printedInto, found, printed]
        destination := by rw [disk]
        device? := by rw [disk] }

/-! ## The steps that write -/

/-- A script has been handed over: it has been printed, or put into its file. -/
theorem World.handed_of_scripted {world after : World} {request : ConvertRequest}
    {conversion : Conversion} (scripted : world.scripted request conversion = (.ok (), after)) :
    (request.output = none ∧ after = world.displayed (conversion.script ++ "\n")) ∨
      Exists fun name => request.output = some name ∧
        Filed name (conversion.script ++ "\n") world after := by
  unfold World.scripted at scripted
  rcases delivered : world.delivered .script request.output conversion.script with
    ⟨failure | _, next⟩
  · rw [delivered] at scripted
    cases scripted
  · rw [delivered, goOn_ok] at scripted
    obtain rfl := congrArg Prod.snd scripted
    cases given : request.output with
    | none =>
        rw [given] at delivered
        refine .inl ⟨rfl, (World.told_nil _).trans ?_⟩
        rcases printed : world.print (conversion.script ++ "\n") with ⟨refusal | _, last⟩
        · simp only [World.delivered, printed] at delivered
          cases delivered
        · simp only [World.delivered, printed] at delivered
          obtain rfl : last = next := congrArg Prod.snd delivered
          exact World.eq_displayed_of_print printed
    | some name =>
        rw [given] at delivered
        have filed := World.filed_of_delivered delivered
        exact .inr ⟨name, rfl,
          { held := filed.held, kept := filed.kept, printed := filed.printed
            destination := filed.destination, device? := filed.device? }⟩

/-- A report has been put into its file, if one is asked for. -/
theorem World.filed_of_summarized {world after : World} {request : ConvertRequest}
    {conversion : Conversion}
    (summarized : world.summarized request conversion = (.ok (), after)) :
    (request.summary = none ∧ after = world) ∨
      Exists fun name => request.summary = some name ∧
        Filed name ((conversion.summary world.clock request.input).render .pretty ++ "\n") world
          after := by
  unfold World.summarized at summarized
  cases given : request.summary with
  | none =>
      rw [given] at summarized
      exact .inl ⟨rfl, (congrArg Prod.snd summarized).symm⟩
  | some name =>
      simp only [given] at summarized
      exact .inr ⟨name, rfl, World.filed_of_delivered summarized⟩

/-! ## The whole run -/

/-- What a request sends to the standard output of a script. -/
def ConvertRequest.printedScript (request : ConvertRequest) (disk : Disk) (text : String) :
    String :=
  match request.output with
  | none => text
  | some file => printedInto disk file text

def ConvertRequest.printedReport (request : ConvertRequest) (disk : Disk) (text : String) :
    String :=
  match request.summary with
  | none => ""
  | some file => printedInto disk file text

/-- What stands where after a script and a report have been handed over. -/
structure Delivers (request : ConvertRequest) (script report : String) (before after : World) :
    Prop where
  printed : after.output = before.output ++ request.printedScript before.disk script ++
    request.printedReport before.disk report
  scriptHeld : forall file, request.output = some file ->
    before.disk.device? (before.disk.destination file) = none ->
    (forall other, request.summary = some other ->
      before.disk.destination file ≠ before.disk.destination other) ->
    after.disk.readText file = .ok script
  reportHeld : forall file, request.summary = some file ->
    before.disk.device? (before.disk.destination file) = none ->
    after.disk.readText file = .ok report

/-- The two outputs together. -/
theorem World.delivers_of_handed {request : ConvertRequest} {conversion : Conversion}
    {before scripted after : World}
    (handed : before.scripted request conversion = (.ok (), scripted))
    (summarized : scripted.summarized request conversion = (.ok (), after)) :
    Delivers request (conversion.script ++ "\n")
      ((conversion.summary scripted.clock request.input).render .pretty ++ "\n") before after := by
  have handed := World.handed_of_scripted handed
  have summarized := World.filed_of_summarized summarized
  have names : scripted.disk.destination = before.disk.destination ∧
      scripted.disk.device? = before.disk.device? := by
    rcases handed with ⟨-, rfl⟩ | ⟨name, -, filed⟩
    · exact ⟨rfl, rfl⟩
    · exact ⟨filed.destination, filed.device?⟩
  rcases names with ⟨destination, device?⟩
  have scriptPrinted : scripted.output =
      before.output ++ request.printedScript before.disk (conversion.script ++ "\n") := by
    rcases handed with ⟨none, rfl⟩ | ⟨name, named, filed⟩
    · rw [ConvertRequest.printedScript, none]
      rfl
    · rw [ConvertRequest.printedScript, named]
      exact filed.printed
  refine ⟨?_, ?_, ?_⟩
  · rw [← scriptPrinted]
    rcases summarized with ⟨none, rfl⟩ | ⟨name, named, filed⟩
    · simp only [ConvertRequest.printedReport, none, String.append_empty]
    · simp only [ConvertRequest.printedReport, named, filed.printed, printedInto, destination,
        device?]
  · intro file given isFile apart
    rcases handed with ⟨none, -⟩ | ⟨name, named, filed⟩
    · cases none.symm.trans given
    · obtain rfl := Option.some.inj (named.symm.trans given)
      have held := filed.held isFile
      rcases summarized with ⟨-, rfl⟩ | ⟨other, asked, reportFiled⟩
      · exact held.readText
      · refine (reportFiled.kept _ _ held ?_).readText
        rw [destination]
        exact apart other asked
  · intro file given isFile
    rcases summarized with ⟨none, -⟩ | ⟨name, named, filed⟩
    · cases none.symm.trans given
    · obtain rfl := Option.some.inj (named.symm.trans given)
      refine (filed.held ?_).readText
      rw [destination, device?]
      exact isFile

/-- A conversion is only handed over if its options and its dump have been
read, and if the options are admitted. -/
theorem World.exists_of_prepared {world told : World} {request : ConvertRequest}
    {conversion : Conversion} (prepared : world.prepared request = (.ok conversion, told)) :
    Exists fun options => Exists fun dump =>
      optionsOf world.disk request.config = .ok options ∧
        world.disk.readText request.input = .ok dump ∧
          convert dump (request.adjust options) = .ok conversion := by
  unfold World.prepared at prepared
  cases loaded : optionsOf world.disk request.config with
  | error failure =>
      rw [loaded] at prepared
      cases prepared
  | ok options =>
      cases read : world.disk.readText request.input with
      | error fault =>
          simp only [loaded, read] at prepared
          cases prepared
      | ok dump =>
          simp only [loaded, read] at prepared
          cases converted : convert dump (request.adjust options) with
          | error badName =>
              rw [converted] at prepared
              cases prepared
          | ok same =>
              rw [converted] at prepared
              cases prepared
              exact ⟨options, dump, rfl, rfl, converted⟩

/-- A successful conversion delivers the script of its dump for its options,
and a report with the counts of this script. -/
theorem run_delivers {arguments : List String} {verbose : Bool} {request : ConvertRequest}
    (asked : invocation arguments = .ok ⟨verbose, .convert request⟩) {world after : World}
    (succeeded : world.run arguments = (0, after)) :
    Exists fun options => Exists fun dump => Exists fun conversion =>
      Exists fun text => Exists fun report =>
        optionsOf world.disk request.config = .ok options ∧
          world.disk.readText request.input = .ok dump ∧
            convert dump (request.adjust options) = .ok conversion ∧
              Json.decode text = .ok (.object report) ∧
                CountedBy report dump (request.adjust options) conversion.script ∧
                  Delivers request (conversion.script ++ "\n") text world after := by
  rw [World.run_eq_carryOut asked] at succeeded
  have carried := world.carried verbose request
  rw [succeeded] at carried
  cases carried with
  | @finished conversion lines scripted final prepared handed summarized =>
      rcases World.exists_of_prepared prepared with ⟨options, dump, loaded, read, converted⟩
      rcases conversion.counted_summary converted scripted.clock request.input with
        ⟨report, summary, counted⟩
      have delivers := World.delivers_of_handed handed summarized
      have decoded := Json.decode_render_line .pretty
        (conversion.summary scripted.clock request.input)
      rw [summary] at decoded delivers
      refine ⟨options, dump, conversion, _, report, loaded, read, converted, decoded, counted, ?_⟩
      -- What is told does not touch the files or the standard output.
      exact
        { printed := delivers.printed
          scriptHeld := delivers.scriptHeld
          reportHeld := delivers.reportHeld }

/-- A script and a report in two files. -/
theorem run_delivers_to_two_files :
    let dump := "CREATE TABLE room_types (\n  bed_size int\n);"
    let world : World :=
      { disk := { files := [(["tmp", "a.sql"], dump.toUTF8)], working := ["tmp"] }
        clock := "now" }
    let after := (world.run ["convert", "a.sql", "-o", "b.sql", "--summary", "b.json"]).2
    Exists fun conversion => Exists fun text => Exists fun report =>
      convert dump {} = .ok conversion ∧ Json.decode text = .ok (.object report) ∧
        CountedBy report dump {} conversion.script ∧ after.output = "" ∧
          after.disk.readText "b.sql" = .ok (conversion.script ++ "\n") ∧
            after.disk.readText "b.json" = .ok text := by
  intro dump world after
  let request : ConvertRequest :=
    { input := "a.sql", output := some "b.sql", config := none, schema := none, exclude := []
      summary := some "b.json" }
  have asked : invocation ["convert", "a.sql", "-o", "b.sql", "--summary", "b.json"] =
      .ok ⟨false, .convert request⟩ := by rfl
  have succeeded : world.run ["convert", "a.sql", "-o", "b.sql", "--summary", "b.json"] =
      (0, after) := by
    refine Prod.ext ?_ rfl
    rw [World.run_eq_carryOut asked]
    decide +kernel
  rcases run_delivers asked succeeded with
    ⟨options, found, conversion, text, report, loaded, read, converted, decoded, counted,
      delivers⟩
  have usual : ({} : Options) = options := Except.ok.inj loaded
  have same : world.disk.readText "a.sql" = .ok dump := by
    decide +kernel
  obtain rfl : dump = found := Except.ok.inj (same.symm.trans read)
  subst usual
  refine ⟨conversion, text, report, converted, decoded, counted, delivers.printed,
    delivers.scriptHeld _ rfl rfl ?_, delivers.reportHeld _ rfl rfl⟩
  intro other named
  obtain rfl := Option.some.inj named
  decide +kernel

/-- A report takes the place of a script whose file it shares.  A script that
has a file is printed all the same if that file is the standard output, and it
cannot be read back from a file that drops what is written to it. -/
theorem script_not_delivered :
    let world : World :=
      { disk :=
          { files := [(["tmp", "a.sql"], "".toUTF8)], working := ["tmp"]
            devices := Disk.usualDevices, links := Disk.usualLinks ["tmp"] }
        clock := "now" }
    let shared := world.run ["convert", "a.sql", "-o", "b", "--summary", "b"]
    let printed := world.run ["convert", "a.sql", "-o", "/dev/stdout"]
    let dropped := world.run ["convert", "a.sql", "-o", "/dev/null"]
    Exists fun conversion => convert "" {} = .ok conversion ∧
      (shared.1 = 0 ∧
        shared.2.disk.bytes? ["tmp", "b"] ≠ some (conversion.script ++ "\n").toUTF8) ∧
        (printed.1 = 0 ∧ printed.2.output ≠ "") ∧
          dropped.1 = 0 ∧
            dropped.2.disk.readText "/dev/null" ≠ .ok (conversion.script ++ "\n") := by
  intro world shared printed dropped
  have admitted : ({} : Options).check = .ok () := Options.check_advice _ _
  refine ⟨_, convert_of_check admitted "", ⟨?_, fun same => ?_⟩, ?_, ?_⟩
  · decide +kernel
  · -- The first byte tells the two texts apart.
    have first := congrArg (Option.map fun bytes => bytes.data.toList.head?) same
    revert first
    decide +kernel
  · decide +kernel
  · decide +kernel

end Cli
end Recase
