import Recase.Proofs.Cli.Steps

namespace Recase
namespace Cli

/-!
# What a failed conversion leaves behind

A conversion hands over its script as the last thing but one, and its summary
after that.  If it fails before, there is nothing that it could have left
behind.  If only the summary cannot be written, the script has already been
handed over: it stays where it is, and everything is as if no summary had been
asked for.

A text that is refused leaves nothing behind either, as long as its file could
not be opened.  Opening a file empties it, and a file that takes no more of the
text keeps what it has taken until then.  The same holds of the standard
output.
-/

/-! ## Texts that are refused -/

/-- Whether nothing can be put into a file: it cannot be opened, or there is a
device that takes nothing. -/
def Refuses (disk : Disk) (file : String) : Prop :=
  (Exists fun fault => disk.target file = .error fault) ∨
    Exists fun way => disk.target file = .ok way ∧
      (disk.device? way = some .unconnected ∨ disk.device? way = some .full)

def Prints (disk : Disk) (output : Option String) : Prop :=
  output = none ∨ Exists fun file => Exists fun way =>
    output = some file ∧ disk.target file = .ok way ∧ disk.device? way = some .output

/-- What is left behind of a text that is not handed over in full. -/
inductive Undelivered (output : Option String) (text : String) (before after : World) : Prop where
  /-- The file refuses the text before it takes anything. -/
  | untouched {file : String} (given : output = some file) (refuses : Refuses before.disk file)
      (disk : after.disk = before.disk) (printed : after.output = before.output)
  /-- The file has been opened and takes a part of the text. -/
  | cut {file : String} {way : Way} {limit : Limit} (given : output = some file)
      (opened : before.disk.target file = .ok way) (isFile : before.disk.device? way = none)
      (exceeded : before.disk.exceeded? way text.utf8ByteSize = some limit)
      (disk : after.disk = before.disk.put way (text.toUTF8.extract 0 limit.room))
      (printed : after.output = before.output)
  /-- The standard output takes a part of the text. -/
  | brokenOff {limit : Limit} {taken : Nat} (prints : Prints before.disk output)
      (limited : before.outputLimit = some limit) (short : taken < text.length)
      (disk : after.disk = before.disk)
      (printed : after.output = before.output ++ String.ofList (text.toList.take taken))

/-- What is told before and afterwards makes no difference. -/
theorem Undelivered.congr {output : Option String} {text : String} {before after first last : World}
    (undelivered : Undelivered output text before after) (disk : first.disk = before.disk)
    (printed : first.output = before.output) (limit : first.outputLimit = before.outputLimit)
    (lastDisk : last.disk = after.disk) (lastPrinted : last.output = after.output) :
    Undelivered output text first last := by
  cases undelivered with
  | untouched given refuses sameDisk same =>
      exact .untouched given (disk ▸ refuses) (lastDisk.trans (sameDisk.trans disk.symm))
        (lastPrinted.trans (same.trans printed.symm))
  | cut given opened isFile exceeded changed same =>
      rw [← disk] at opened isFile exceeded changed
      exact .cut given opened isFile exceeded (lastDisk.trans changed)
        (lastPrinted.trans (same.trans printed.symm))
  | brokenOff prints limited short sameDisk changed =>
      rw [← printed] at changed
      exact .brokenOff (disk ▸ prints) (limit.trans limited) short
        (lastDisk.trans (sameDisk.trans disk.symm)) (lastPrinted.trans changed)

/-- Where nothing is limited, a text is handed over in full or not at all. -/
theorem Undelivered.of_unlimited {output : Option String} {text : String} {before after : World}
    (undelivered : Undelivered output text before after) (files : before.disk.limits = [])
    (standard : before.outputLimit = none) :
    after.disk = before.disk ∧ after.output = before.output := by
  cases undelivered with
  | untouched _ _ disk printed => exact ⟨disk, printed⟩
  | cut _ _ _ exceeded =>
      rw [Disk.exceeded?, files] at exceeded
      cases exceeded
  | brokenOff _ limited => cases standard.symm.trans limited

theorem World.undelivered_of_put {world after : World} {name text : String} {way : Way}
    {fault : WriteFault} (targeted : world.disk.target name = .ok way)
    (failed : world.put way text = (.error fault, after)) :
    Undelivered (some name) text world after := by
  unfold put at failed
  cases found : world.disk.device? way with
  | none =>
      simp only [found, Disk.fill] at failed
      cases exceeded : world.disk.exceeded? way text.utf8ByteSize with
      | none =>
          rw [exceeded] at failed
          cases failed
      | some limit =>
          rw [exceeded] at failed
          cases failed
          exact .cut rfl targeted found exceeded rfl rfl
  | some device =>
      rw [found] at failed
      cases device with
      | unconnected =>
          cases failed
          exact .untouched rfl (.inr ⟨way, targeted, .inl found⟩) rfl rfl
      | full =>
          cases failed
          exact .untouched rfl (.inr ⟨way, targeted, .inr found⟩) rfl rfl
      | output =>
          rcases world.cases_print text with all | ⟨limit, taken, limited, short, broken⟩
          · simp only [all] at failed
            cases failed
          · simp only [broken] at failed
            cases failed
            exact .brokenOff (.inr ⟨name, way, rfl, targeted, found⟩) limited short rfl rfl
      | sink => cases failed
      | errors => cases failed

theorem World.undelivered_of_writeText {world after : World} {name text : String}
    {fault : WriteFault} (failed : world.writeText name text = (.error fault, after)) :
    Undelivered (some name) text world after := by
  unfold writeText at failed
  cases targeted : world.disk.target name with
  | error missing =>
      rw [targeted] at failed
      cases failed
      exact .untouched rfl (.inl ⟨missing, targeted⟩) rfl rfl
  | ok way =>
      rw [targeted] at failed
      exact World.undelivered_of_put targeted failed

theorem World.undelivered_of_delivered {world after : World} {product : Product}
    {output : Option String} {text : String} {failure : Failure}
    (failed : world.delivered product output text = (.error failure, after)) :
    Undelivered output (text ++ "\n") world after := by
  unfold delivered at failed
  cases output with
  | none =>
      rcases world.cases_print (text ++ "\n") with all | ⟨limit, taken, limited, short, broken⟩
      · simp only [all] at failed
        cases failed
      · simp only [broken] at failed
        cases failed
        exact .brokenOff (.inl rfl) limited short rfl rfl
  | some name =>
      rcases wrote : world.writeText name (text ++ "\n") with ⟨fault | _, last⟩
      · simp only [wrote] at failed
        cases failed
        exact World.undelivered_of_writeText wrote
      · simp only [wrote] at failed
        cases failed

theorem World.undelivered_of_scripted {world after : World} {request : ConvertRequest}
    {conversion : Conversion} {failure : Failure}
    (failed : world.scripted request conversion = (.error failure, after)) :
    Undelivered request.output (conversion.script ++ "\n") world after := by
  unfold scripted at failed
  rcases delivered : world.delivered .script request.output conversion.script with
    ⟨refused | _, last⟩
  · rw [delivered] at failed
    cases failed
    exact World.undelivered_of_delivered delivered
  · rw [delivered] at failed
    cases failed

theorem World.undelivered_of_summarized {world after : World} {request : ConvertRequest}
    {conversion : Conversion} {failure : Failure}
    (failed : world.summarized request conversion = (.error failure, after)) :
    Exists fun file => request.summary = some file ∧
      Undelivered (some file)
        ((conversion.summary world.clock request.input).render .pretty ++ "\n") world after := by
  unfold summarized at failed
  cases given : request.summary with
  | none =>
      rw [given] at failed
      cases failed
  | some file =>
      rw [given] at failed
      exact ⟨file, rfl, World.undelivered_of_delivered failed⟩

/-! ## The whole run -/

theorem World.clock_print (world : World) (text : String) :
    (world.print text).2.clock = world.clock := by
  rcases world.cases_print text with all | ⟨_, _, _, _, broken⟩
  · rw [all]
    rfl
  · rw [broken]
    rfl

theorem World.clock_put (world : World) (way : Way) (text : String) :
    (world.put way text).2.clock = world.clock := by
  unfold put
  cases world.disk.device? way with
  | none => rfl
  | some device =>
      cases device with
      | output => exact world.clock_print text
      | unconnected => rfl
      | full => rfl
      | sink => rfl
      | errors => rfl

theorem World.clock_delivered (world : World) (product : Product) (output : Option String)
    (text : String) : (world.delivered product output text).2.clock = world.clock := by
  unfold delivered
  cases output with
  | none => exact world.clock_print _
  | some name =>
      simp only [writeText]
      cases world.disk.target name with
      | error fault => rfl
      | ok way => exact world.clock_put way _

/-- A clock does not go on when a script is handed over. -/
theorem World.clock_scripted (world : World) (request : ConvertRequest) (conversion : Conversion) :
    (world.scripted request conversion).2.clock = world.clock := by
  have delivered := world.clock_delivered .script request.output conversion.script
  rw [scripted]
  generalize world.delivered .script request.output conversion.script = ended at delivered ⊢
  rcases ended with ⟨_ | _, after⟩
  · exact delivered
  · exact delivered

/-- A request without a summary takes the same steps up to the summary. -/
theorem World.carryOut_without_summary {world scripted : World} {verbose : Bool}
    {request : ConvertRequest} {conversion : Conversion} {lines : List String}
    (prepared : world.prepared request = (.ok conversion, world.told lines))
    (handed : (world.told (lines ++ foreword world.stamp verbose conversion)).scripted request
      conversion = (.ok (), scripted)) :
    world.carryOut verbose { request with summary := none } = (0, scripted.told followUp) := by
  have samePrepared : world.prepared { request with summary := none } =
      (.ok conversion, world.told lines) := prepared
  have sameHanded : (world.told (lines ++ foreword world.stamp verbose conversion)).scripted
      { request with summary := none } conversion = (.ok (), scripted) := handed
  rw [carryOut, converted, samePrepared]
  simp only [told_told, handOver, sameHanded, goOn_ok]
  rfl

/-- A conversion that fails has found nothing to hand over, or its script is
not handed over in full, or its summary is not.  In the first case it leaves
all files as they were and prints nothing to the standard output.  In the
second one it leaves of the script what has been taken.  In the last one it
leaves what it leaves without a summary, which is a success, and of the summary
what has been taken. -/
theorem run_failed_leaves_disk {arguments : List String} {verbose : Bool}
    {request : ConvertRequest}
    (asked : invocation arguments = .ok ⟨verbose, .convert request⟩) {world after : World}
    (failed : world.run arguments = (1, after)) :
    (Exists fun failure => (world.prepared request).1 = .error failure ∧
        after.disk = world.disk ∧ after.output = world.output) ∨
      Exists fun conversion => (world.prepared request).1 = .ok conversion ∧
        (Undelivered request.output (conversion.script ++ "\n") world after ∨
          Exists fun file =>
            let plain := world.carryOut verbose { request with summary := none }
            let report := (conversion.summary world.clock request.input).render .pretty
            request.summary = some file ∧ plain.1 = 0 ∧
              Undelivered (some file) (report ++ "\n") plain.2 after) := by
  rw [World.run_eq_carryOut asked] at failed
  have carried := world.carried verbose request
  rw [failed] at carried
  cases carried with
  | @unprepared failure lines prepared =>
      exact .inl ⟨failure, congrArg Prod.fst prepared, rfl, rfl⟩
  | @unscripted conversion lines failure last prepared refused =>
      have undelivered := World.undelivered_of_scripted refused
      exact .inr ⟨conversion, congrArg Prod.fst prepared,
        .inl (undelivered.congr rfl rfl rfl rfl rfl)⟩
  | @unsummarized conversion lines scripted last failure prepared handed refused =>
      rcases World.undelivered_of_summarized refused with ⟨file, given, undelivered⟩
      refine .inr ⟨conversion, congrArg Prod.fst prepared, .inr ⟨file, given, ?_⟩⟩
      have clock : scripted.clock = world.clock := by
        have kept := World.clock_scripted
          (world.told (lines ++ foreword world.stamp verbose conversion)) request conversion
        rwa [handed] at kept
      rw [World.carryOut_without_summary prepared handed, ← clock]
      exact ⟨rfl, undelivered.congr rfl rfl rfl rfl rfl⟩

/-- A summary goes to a directory that is not there.  The script has been
written by then, just as it is without a summary. -/
theorem run_failed_leaves_script :
    let world : World :=
      { disk := (Disk.usual ["tmp"]).install "".toUTF8 ["tmp"] ["a.sql"], clock := "now" }
    let request : ConvertRequest :=
      { input := "a.sql", output := some "b.sql", config := none, schema := none, exclude := []
        summary := some "missing/s.json" }
    let after :=
      (world.run ["convert", "a.sql", "-o", "b.sql", "--summary", "missing/s.json"]).2
    let plain := world.carryOut false { request with summary := none }
    plain.1 = 0 ∧ after.disk = plain.2.disk ∧ after.output = plain.2.output := by
  intro world request after plain
  have failed : world.run ["convert", "a.sql", "-o", "b.sql", "--summary", "missing/s.json"] =
      (1, after) :=
    Prod.ext (by decide +kernel) rfl
  have asked : invocation ["convert", "a.sql", "-o", "b.sql", "--summary", "missing/s.json"] =
      .ok ⟨false, .convert request⟩ := by rfl
  have written : (after.disk.bytes? ["tmp", "b.sql"]).isSome = true := by decide +kernel
  have unwritten : ¬ (world.disk.bytes? ["tmp", "b.sql"]).isSome = true := by decide +kernel
  have files : plain.2.disk.limits.isEmpty = true := by decide +kernel
  have standard : plain.2.outputLimit.isNone = true := by decide +kernel
  rcases run_failed_leaves_disk asked failed with
    ⟨_, -, disk, -⟩ | ⟨conversion, -, undelivered | ⟨file, -, ok, undelivered⟩⟩
  · exact absurd (disk ▸ written) unwritten
  · have disk := (undelivered.of_unlimited rfl rfl).1
    exact absurd (disk ▸ written) unwritten
  · exact ⟨ok, undelivered.of_unlimited (List.isEmpty_iff.mp files)
      (Option.isNone_iff_eq_none.mp standard)⟩

/-- A conversion can fail when there is a new file already, and also when the
script has been printed already.  A file that takes no more than ten bytes has
ten bytes of the script in the end. -/
theorem script_outlives_failed_summary :
    let world : World :=
      { disk := (Disk.usual ["tmp"]).install "".toUTF8 ["tmp"] ["a.sql"], clock := "now" }
    let narrow : World :=
      { world with disk.limits := [(["tmp", "b.sql"], ⟨10, ⟨.rest, .noSpace⟩⟩)] }
    let filed := world.run ["convert", "a.sql", "-o", "b.sql", "--summary", "missing/s.json"]
    let printed := world.run ["convert", "a.sql", "--summary", "missing/s.json"]
    let cut := narrow.run ["convert", "a.sql", "-o", "b.sql"]
    world.disk.bytes? ["tmp", "b.sql"] = none ∧ world.output = "" ∧
      (filed.1 = 1 ∧ (filed.2.disk.bytes? ["tmp", "b.sql"]).isSome = true) ∧
        (printed.1 = 1 ∧ printed.2.output ≠ "") ∧
          cut.1 = 1 ∧ (cut.2.disk.bytes? ["tmp", "b.sql"]).map ByteArray.size = some 10 := by
  decide +kernel

end Cli
end Recase
