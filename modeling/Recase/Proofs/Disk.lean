import Mathlib.Data.List.TakeDrop
import Recase.Disk

namespace Recase
namespace Disk

/-!
# Names and the files they lead to

Whether a name can be followed depends on the directories, but the way that it
leads to does not: it is known from the name and the links alone.  A file that
is put on a disk therefore never makes a name lead to another way.  All that a
new file can do is to let a name be followed that could not be followed before.

The last part is on two disks with the same directories.  They may differ in
what is in their files, and some files may even be missing on one of them.
Every name that keeps clear of these is taken in the same way on both disks.
-/

/-! ## Where a name leads -/

/-- The way that a part of a name leads to from another one, as long as nothing
is in the way. -/
def leads (disk : Disk) (way : Way) (part : String) : Way :=
  disk.behind (step way part)

/-- The way that a name leads to, as long as nothing is in the way. -/
def destination (disk : Disk) (name : String) : Way :=
  (parts name).foldl disk.leads (disk.start name)

theorem follow_eq_ok_iff {disk : Disk} {way next : Way} {part : String} :
    disk.follow way part = .ok next ↔
      disk.isDirectory way = true ∧ part.utf8ByteSize <= partLimit ∧
        next = disk.leads way part := by
  rw [follow]
  cases directory : disk.isDirectory way with
  | false => simp
  | true =>
      by_cases long : partLimit < part.utf8ByteSize
      · simp [long, Nat.not_le.mpr long]
      · simp [long, Nat.not_lt.mp long, leads, eq_comm]

/-- Parts that are followed one after the other lead where they lead. -/
theorem eq_foldl_of_foldlM {disk : Disk} {followed : List String} {way last : Way}
    (ok : followed.foldlM disk.follow way = .ok last) : last = followed.foldl disk.leads way := by
  induction followed generalizing way with
  | nil =>
      cases ok
      rfl
  | cons part others inductionHypothesis =>
      rw [List.foldlM_cons] at ok
      cases next : disk.follow way part with
      | error fault =>
          rw [next] at ok
          cases ok
      | ok later =>
          rw [next] at ok
          rw [List.foldl_cons, ← (follow_eq_ok_iff.mp next).2.2]
          exact inductionHypothesis ok

theorem eq_destination_of_resolve {disk : Disk} {name : String} {way : Way}
    (resolved : disk.resolve name = .ok way) : way = disk.destination name := by
  unfold resolve at resolved
  split at resolved
  · cases resolved
  · exact eq_foldl_of_foldlM resolved

/-! ## Files that are to be written -/

/-- The way to a file, if it can be opened to be written. -/
def accept (disk : Disk) (way : Way) : Except Cli.FileFault Way :=
  if disk.isDirectory way then .error .isDirectory
  else if disk.isReserved way && (disk.contents? way).isNone then .error .missing
  else .ok way

theorem target_eq (disk : Disk) (name : String) :
    disk.target name =
      if nameLimit <= name.utf8ByteSize then .error .nameTooLong
      else if ((parts name).reverse.takeWhile (· == "")).isEmpty then
        ((parts name).foldlM disk.follow (disk.start name)).bind disk.accept
      else
        ((((parts name).reverse.dropWhile (· == "")).tail.reverse ++ [""]).foldlM disk.follow
          (disk.start name)).bind fun _ => .error .isDirectory := by
  unfold target
  by_cases long : nameLimit <= name.utf8ByteSize
  · rw [if_pos long, if_pos long]
    rfl
  · rw [if_neg long, if_neg long, List.span_eq_takeWhile_dropWhile]
    dsimp only
    split
    · rename_i none
      have all := List.takeWhile_append_dropWhile (p := (· == "")) (l := (parts name).reverse)
      rw [List.isEmpty_iff.mp none, List.nil_append] at all
      rw [all, List.reverse_reverse]
      rfl
    · rfl

/-- A file that can be written has a name that can be followed. -/
theorem resolve_of_target {disk : Disk} {name : String} {way : Way}
    (targeted : disk.target name = .ok way) : disk.resolve name = .ok way := by
  rw [target_eq] at targeted
  unfold resolve
  split at targeted
  · cases targeted
  · rename_i short
    rw [if_neg short]
    split at targeted
    · cases followed : (parts name).foldlM disk.follow (disk.start name) with
      | error fault =>
          rw [followed] at targeted
          cases targeted
      | ok last =>
          rw [followed] at targeted
          simp only [Except.bind, accept] at targeted
          split at targeted
          · cases targeted
          · split at targeted
            · cases targeted
            · exact targeted
    · cases followed : (((parts name).reverse.dropWhile (· == "")).tail.reverse ++ [""]).foldlM
        disk.follow (disk.start name) <;>
        · rw [followed] at targeted
          cases targeted

/-! ## Putting a file on a disk -/

theorem bytes?_eq (disk : Disk) (way : Way) :
    disk.bytes? way = (disk.files.find? fun file => file.1 == way).map Prod.snd :=
  rfl

theorem put_eq (disk : Disk) (way : Way) (bytes : ByteArray) :
    disk.put way bytes =
      if (disk.bytes? way).isSome then
        { disk with
          files := disk.files.map fun file => (file.1, if file.1 = way then bytes else file.2) }
      else { disk with files := disk.files ++ [(way, bytes)] } :=
  rfl

theorem isDirectory_eq (disk : Disk) (way : Way) :
    disk.isDirectory way =
      (way.isPrefixOf disk.working || disk.directories.any way.isPrefixOf ||
        disk.files.any (fun file => leadsOn way file.1) ||
          disk.devices.any fun file => leadsOn way file.1) :=
  rfl

/-- The file at the end of a way is listed with this way. -/
theorem exists_of_isSome_bytes? {disk : Disk} {way : Way} (held : (disk.bytes? way).isSome = true) :
    Exists fun bytes => (disk.files.find? fun file => file.1 == way) = some (way, bytes) := by
  rcases Option.isSome_iff_exists.mp held with ⟨bytes, held⟩
  rw [bytes?_eq] at held
  rcases Option.map_eq_some_iff.mp held with ⟨file, first, -⟩
  have same : file.1 = way := by
    simpa using List.find?_some first
  exact ⟨file.2, by rw [first, ← same]⟩

theorem bytes?_put_self (disk : Disk) (way : Way) (bytes : ByteArray) :
    (disk.put way bytes).bytes? way = some bytes := by
  rw [put_eq]
  split
  · rename_i held
    rcases exists_of_isSome_bytes? held with ⟨old, first⟩
    have keys : ((fun file : Way × ByteArray => file.1 == way) ∘
        fun file : Way × ByteArray => (file.1, if file.1 = way then bytes else file.2)) =
          fun file : Way × ByteArray => file.1 == way := rfl
    rw [bytes?_eq, List.find?_map, keys, first, Option.map_some, Option.map_some, if_pos rfl]
  · rename_i absent
    rw [Option.not_isSome_iff_eq_none, bytes?_eq, Option.map_eq_none_iff] at absent
    simp [bytes?_eq, List.find?_append, absent]

theorem bytes?_put_of_ne (disk : Disk) {way other : Way} (apart : other ≠ way)
    (bytes : ByteArray) : (disk.put way bytes).bytes? other = disk.bytes? other := by
  rw [put_eq]
  split
  · simp only [bytes?_eq, List.find?_map, Function.comp_def, Option.map_map]
    cases first : disk.files.find? fun file => file.1 == other with
    | none => rfl
    | some file =>
        have same : file.1 = other := by
          simpa using List.find?_some first
        simp [same, apart]
  · simp [bytes?_eq, List.find?_append, Ne.symm apart]

theorem device?_put (disk : Disk) (way other : Way) (bytes : ByteArray) :
    (disk.put way bytes).device? other = disk.device? other := by
  unfold put
  split <;> rfl

theorem leads_put (disk : Disk) (way : Way) (bytes : ByteArray) :
    (disk.put way bytes).leads = disk.leads := by
  unfold put
  split <;> rfl

theorem start_put (disk : Disk) (way : Way) (bytes : ByteArray) :
    (disk.put way bytes).start = disk.start := by
  unfold put
  split <;> rfl

theorem destination_put (disk : Disk) (way : Way) (bytes : ByteArray) :
    (disk.put way bytes).destination = disk.destination := by
  funext name
  rw [destination, destination, leads_put, start_put]

/-- The directories are those from before and those on the way to the file. -/
theorem isDirectory_put (disk : Disk) (way other : Way) (bytes : ByteArray) :
    (disk.put way bytes).isDirectory other = (disk.isDirectory other || leadsOn other way) := by
  rw [put_eq]
  split
  · rename_i held
    rcases exists_of_isSome_bytes? held with ⟨old, first⟩
    have known : leadsOn other way = true -> disk.isDirectory other = true := by
      intro on
      have listed : disk.files.any (fun file => leadsOn other file.1) = true :=
        List.any_eq_true.mpr ⟨_, List.mem_of_find?_eq_some first, on⟩
      simp [isDirectory_eq, listed]
    have same : ({ disk with
        files := disk.files.map fun file =>
          (file.1, if file.1 = way then bytes else file.2) } : Disk).isDirectory other =
            disk.isDirectory other := by
      simp [isDirectory_eq, List.any_map, Function.comp_def]
    rw [same]
    cases on : leadsOn other way with
    | false => rw [Bool.or_false]
    | true => rw [known on, Bool.or_true]
  · simp only [isDirectory_eq, List.any_append, List.any_cons, List.any_nil, Bool.or_false]
    ac_rfl

theorem resolve_put {disk : Disk} {name : String} {way : Way}
    (resolved : disk.resolve name = .ok way) (other : Way) (bytes : ByteArray) :
    (disk.put other bytes).resolve name = .ok way := by
  have follows {parts : List String} {first last : Way}
      (ok : parts.foldlM disk.follow first = .ok last) :
      parts.foldlM (disk.put other bytes).follow first = .ok last := by
    induction parts generalizing first with
    | nil => exact ok
    | cons part others inductionHypothesis =>
        rw [List.foldlM_cons] at ok ⊢
        cases next : disk.follow first part with
        | error fault =>
            rw [next] at ok
            cases ok
        | ok later =>
            rw [next] at ok
            rcases follow_eq_ok_iff.mp next with ⟨directory, short, leads⟩
            have kept : (disk.put other bytes).follow first part = .ok later := by
              refine follow_eq_ok_iff.mpr ⟨?_, short, ?_⟩
              · rw [isDirectory_put, directory, Bool.true_or]
              · rw [leads_put]
                exact leads
            rw [kept]
            exact inductionHypothesis ok
  unfold resolve at resolved ⊢
  rw [start_put]
  split at resolved
  · cases resolved
  · rename_i short
    rw [if_neg short]
    exact follows resolved

/-! ## Texts in files -/

theorem fromUTF8?_toUTF8 (text : String) : String.fromUTF8? text.toUTF8 = some text := by
  have valid : text.toUTF8.IsValidUTF8 := text.isValidUTF8
  rw [String.fromUTF8?, dif_pos valid]
  rfl

/-- The file that a name leads to holds a text. -/
structure Holds (disk : Disk) (name text : String) : Prop where
  resolved : disk.resolve name = .ok (disk.destination name)
  isFile : disk.device? (disk.destination name) = none
  held : disk.bytes? (disk.destination name) = some text.toUTF8

theorem Holds.readText {disk : Disk} {name text : String} (holds : disk.Holds name text) :
    disk.readText name = .ok text := by
  have contents : disk.contents? (disk.destination name) = some text.toUTF8 := by
    rw [contents?, holds.isFile]
    exact holds.held
  unfold Disk.readText
  rw [holds.resolved]
  simp only [bind, Except.bind, holds.isFile, contents, fromUTF8?_toUTF8]
  rfl

/-- A text that is put where a name leads is in the file of this name. -/
theorem holds_put {disk : Disk} {name : String} {way : Way}
    (targeted : disk.target name = .ok way) (isFile : disk.device? (disk.destination name) = none)
    (text : String) : (disk.put way text.toUTF8).Holds name text := by
  have resolved := resolve_of_target targeted
  have same := eq_destination_of_resolve resolved
  refine ⟨?_, ?_, ?_⟩
  · rw [destination_put, ← same]
    exact resolve_put resolved way _
  · rw [destination_put, device?_put]
    exact isFile
  · rw [destination_put, ← same]
    exact bytes?_put_self disk way _

/-- It stays there when another file is put on the disk. -/
theorem Holds.put {disk : Disk} {name text : String} (holds : disk.Holds name text) {way : Way}
    (apart : disk.destination name ≠ way) (bytes : ByteArray) :
    (disk.put way bytes).Holds name text := by
  refine ⟨?_, ?_, ?_⟩
  · rw [destination_put]
    exact resolve_put holds.resolved way bytes
  · rw [destination_put, device?_put]
    exact holds.isFile
  · rw [destination_put, bytes?_put_of_ne disk apart]
    exact holds.held

/-! ## Disks with the same directories -/

/-- Two disks are alike if only the bytes of their files differ.  Of the files
at some ways it does not matter whether there are any. -/
structure Alike (hidden : Way -> Prop) (one other : Disk) : Prop where
  working : one.working = other.working
  devices : one.devices = other.devices
  links : one.links = other.links
  reserved : one.reserved = other.reserved
  limits : one.limits = other.limits
  directories : forall way, one.isDirectory way = other.isDirectory way
  present : forall way, ¬ hidden way -> (one.bytes? way).isSome = (other.bytes? way).isSome

/-- A name keeps clear of some ways if neither the name nor a beginning of it
leads to any of them. -/
def KeepsClear (disk : Disk) (hidden : Way -> Prop) (name : String) : Prop :=
  forall taken, taken <+: parts name -> ¬ hidden (taken.foldl disk.leads (disk.start name))

namespace Alike

variable {hidden : Way -> Prop} {one other : Disk}

theorem device? (alike : Alike hidden one other) (way : Way) :
    one.device? way = other.device? way := by
  rw [Disk.device?, Disk.device?, alike.devices]

theorem exceeded? (alike : Alike hidden one other) (way : Way) (size : Nat) :
    one.exceeded? way size = other.exceeded? way size := by
  rw [Disk.exceeded?, Disk.exceeded?, alike.limits]

theorem leads (alike : Alike hidden one other) : one.leads = other.leads := by
  funext way part
  rw [Disk.leads, Disk.leads, behind, behind, alike.links]

theorem start (alike : Alike hidden one other) (name : String) :
    one.start name = other.start name := by
  rw [Disk.start, Disk.start, alike.working]

theorem isReserved (alike : Alike hidden one other) (way : Way) :
    one.isReserved way = other.isReserved way := by
  rw [Disk.isReserved, Disk.isReserved, alike.reserved]

theorem isSome_contents? (alike : Alike hidden one other) {way : Way} (clear : ¬ hidden way) :
    (one.contents? way).isSome = (other.contents? way).isSome := by
  rw [contents?, contents?, alike.device?]
  cases other.device? way with
  | none => exact alike.present way clear
  | some device => rfl

theorem follow (alike : Alike hidden one other) {way : Way} (clear : ¬ hidden way)
    (part : String) : one.follow way part = other.follow way part := by
  have behind := congrFun (congrFun alike.leads way) part
  simp only [Disk.leads] at behind
  rw [Disk.follow, Disk.follow, alike.directories, alike.isSome_contents? clear, alike.isReserved,
    behind]

theorem foldlM_follow (alike : Alike hidden one other) {followed : List String} {way : Way}
    (clear : forall taken, taken <+: followed -> ¬ hidden (taken.foldl one.leads way)) :
    followed.foldlM one.follow way = followed.foldlM other.follow way := by
  induction followed generalizing way with
  | nil => rfl
  | cons part others inductionHypothesis =>
      have same : one.follow way part = other.follow way part :=
        alike.follow (clear [] List.nil_prefix) part
      rw [List.foldlM_cons, List.foldlM_cons, ← same]
      cases next : one.follow way part with
      | error fault => rfl
      | ok later =>
          refine inductionHypothesis fun taken front => ?_
          rw [(follow_eq_ok_iff.mp next).2.2, ← List.foldl_cons]
          exact clear _ (List.cons_prefix_cons.mpr ⟨rfl, front⟩)

theorem accept (alike : Alike hidden one other) {way : Way} (clear : ¬ hidden way) :
    one.accept way = other.accept way := by
  have contents := alike.isSome_contents? clear
  rw [Disk.accept, Disk.accept, alike.directories, alike.isReserved, ← Option.not_isSome,
    ← Option.not_isSome, contents]

/-- A file is opened to be written at the same way on both disks, or for the
same reason on none. -/
theorem target (alike : Alike hidden one other) {name : String}
    (clear : one.KeepsClear hidden name) : one.target name = other.target name := by
  rw [target_eq, target_eq, ← alike.start]
  split
  · rfl
  · split
    · rw [← alike.foldlM_follow clear]
      cases followed : (parts name).foldlM one.follow (one.start name) with
      | error fault => rfl
      | ok way =>
          refine alike.accept ?_
          rw [eq_foldl_of_foldlM followed]
          exact clear _ (List.prefix_refl _)
    · -- The last part is not followed, and what leads up to it is a beginning of the name.
      have front : ((parts name).reverse.dropWhile (· == "")).tail.reverse <+: parts name := by
        rw [← List.reverse_suffix, List.reverse_reverse]
        exact (List.tail_suffix _).trans (List.dropWhile_suffix _)
      generalize ((parts name).reverse.dropWhile (· == "")).tail.reverse = before at front ⊢
      rw [List.foldlM_append, List.foldlM_append,
        ← alike.foldlM_follow fun taken begins => clear taken (begins.trans front)]
      cases followed : before.foldlM one.follow (one.start name) with
      | error fault => rfl
      | ok way =>
          have last : one.follow way "" = other.follow way "" := by
            refine alike.follow ?_ ""
            rw [eq_foldl_of_foldlM followed]
            exact clear before front
          have same : [""].foldlM one.follow way = [""].foldlM other.follow way := by
            rw [List.foldlM_cons, List.foldlM_cons, last]
            rfl
          exact congrArg (Except.bind · _) same

/-- Disks stay alike when the same file is put on both. -/
theorem put (alike : Alike hidden one other) (way : Way) (bytes : ByteArray) :
    Alike hidden (one.put way bytes) (other.put way bytes) := by
  have parts (disk : Disk) : (disk.put way bytes).working = disk.working ∧
      (disk.put way bytes).devices = disk.devices ∧ (disk.put way bytes).links = disk.links ∧
        (disk.put way bytes).reserved = disk.reserved ∧
          (disk.put way bytes).limits = disk.limits := by
    unfold Disk.put
    split <;> exact ⟨rfl, rfl, rfl, rfl, rfl⟩
  rcases parts one with ⟨working, devices, links, reserved, limits⟩
  rcases parts other with ⟨otherWorking, otherDevices, otherLinks, otherReserved, otherLimits⟩
  exact
    { working := by rw [working, otherWorking, alike.working]
      devices := by rw [devices, otherDevices, alike.devices]
      links := by rw [links, otherLinks, alike.links]
      reserved := by rw [reserved, otherReserved, alike.reserved]
      limits := by rw [limits, otherLimits, alike.limits]
      directories := fun next => by rw [isDirectory_put, isDirectory_put, alike.directories]
      present := fun next clear => by
        by_cases same : next = way
        · rw [same, bytes?_put_self, bytes?_put_self]
        · rw [bytes?_put_of_ne _ same, bytes?_put_of_ne _ same, alike.present next clear] }

end Alike
end Disk
end Recase
