import SyscallFilter.Proofs.Audit

/-! Names and numbers lead to the same calls. The calls of a target come as a map from numbers to
    names, whose entries have no order of their own, and go one by one into a directory that finds
    them both ways:

        (0, read) ─┐            ┌─▶ names:    0 ↦ read, 1 ↦ write, …
        (1, write) ┼──▶ enter ──┤
        …         ─┘            └─▶ numbers:  read ↦ 0, write ↦ 1, …

    An entry takes the place of an earlier one with its name, so in general the order matters. In
    the tables of targets no name stands twice. There the directory holds the same calls both ways,
    whatever the order, and the two lookups undo each other.

    Calls to audit are given by a name or by a numeral, and are tried as a numeral first. No name of
    a table is one, and a number is read back from its numeral, so a call that is found is found by
    its name and by its number too. -/

namespace SyscallFilter

/-! ### Numerals -/

namespace Numeral

theorem digit?_toUInt8 {c : Char} (h : c.isDigit = true) :
    digit? c.toUInt8 = some (c.toNat - '0'.toNat) := by
  obtain ⟨hlow, hhigh⟩ := Char.isDigit_iff_toNat.mp h
  have hzero : '0'.toNat = 48 := rfl
  have hnine : '9'.toNat = 57 := rfl
  have hbyte : c.toUInt8.toNat = c.toNat := by
    rw [Char.toUInt8, UInt32.toNat_toUInt8]
    exact Nat.mod_eq_of_lt (by change c.toNat < _; omega)
  rw [digit?, hbyte, if_pos (by omega), hzero]

theorem readDigits_map : ∀ {digits : List Char} (acc : Nat), (∀ c ∈ digits, c.isDigit = true) →
    readDigits acc (digits.map Char.toUInt8) = some (Nat.ofDigitChars 10 digits acc)
  | [], _, _ => rfl
  | c :: digits, acc, h => by
    have hrest := readDigits_map (10 * acc + (c.toNat - '0'.toNat)) fun d hd =>
      h d (List.mem_cons_of_mem c hd)
    rw [List.map_cons, readDigits, digit?_toUInt8 (h c List.mem_cons_self), Nat.ofDigitChars_cons]
    exact hrest

theorem readDigits_decimal (n : Nat) : readDigits 0 (decimal n) = some n := by
  have hdigits : ∀ c ∈ Nat.toDigits 10 n, c.isDigit = true := fun c hc =>
    Nat.isDigit_of_mem_toDigits (by omega) (by omega) hc
  rw [decimal, readDigits_map 0 hdigits, Nat.ofDigitChars_ten_toDigits]

/-- A numeral begins with a digit, and so with neither sign. -/
theorem decimal_eq_cons (n : Nat) : ∃ b rest, decimal n = b :: rest ∧
    b ≠ Bytes.ascii '-' ∧ b ≠ Bytes.ascii '+' := by
  cases h : decimal n with
  | nil => exact absurd (List.map_eq_nil_iff.mp h) Nat.toDigits_ne_nil
  | cons b rest =>
    have hread := readDigits_decimal n
    rw [h, readDigits] at hread
    refine ⟨b, rest, rfl, ?_, ?_⟩
    · rintro rfl
      cases hread
    · rintro rfl
      cases hread

theorem readNat?_decimal (n : Nat) : readNat? (decimal n) = some n := by
  obtain ⟨b, rest, h, -⟩ := decimal_eq_cons n
  rw [h, readNat?, ← h, readDigits_decimal]
  exact List.cons_ne_nil b rest

/-- Every integer is read back from its numeral. -/
theorem readSigned?_signed (n : Int) : readSigned? (signed n) = some n := by
  cases n with
  | ofNat n =>
    obtain ⟨b, rest, h, hminus, hplus⟩ := decimal_eq_cons n
    rw [signed, h, readSigned?, if_neg hminus, if_neg hplus, ← h, readNat?_decimal]
    rfl
  | negSucc n =>
    rw [signed, readSigned?, if_pos rfl, readNat?_decimal]
    rfl

theorem readInt?_signed {n : Int} (h : fitsWord n = true) : readInt? (signed n) = some n := by
  rw [readInt?, readSigned?_signed]
  exact if_pos h

end Numeral

/-! ### Directories -/

/-- Two maps that find calls by number and by name. -/
structure Directory where
  names : Std.HashMap Int Bytes := ∅
  numbers : Std.HashMap Bytes Int := ∅

namespace Directory

/-- Enters a call under its number and under its name. -/
def enter (d : Directory) (e : Int × Bytes) : Directory where
  names := d.names.insert e.1 e.2
  numbers := d.numbers.insert e.2 e.1

/-- The directory into which calls are entered one after another. -/
def ofEntries (entries : List (Int × Bytes)) : Directory := entries.foldl enter {}

/-- The number of a name. A negative one counts as none. -/
def resolve? (d : Directory) (name : Bytes) : Option Int := d.numbers[name]?.filter (0 ≤ ·)

/-- No number and no name stands twice. -/
structure Distinct (entries : List (Int × Bytes)) : Prop where
  numbers : (entries.map (·.1)).Nodup
  names : (entries.map (·.2)).Nodup

/-- A directory finds certain calls, and no others, both ways. -/
structure Holds (d : Directory) (entries : List (Int × Bytes)) : Prop where
  names : ∀ number name, d.names[number]? = some name ↔ (number, name) ∈ entries
  numbers : ∀ number name, d.numbers[name]? = some number ↔ (number, name) ∈ entries

variable {d : Directory} {entries others seen : List (Int × Bytes)}

theorem Distinct.perm (h : Distinct entries) (hperm : others.Perm entries) : Distinct others where
  numbers := (hperm.map _).nodup_iff.mpr h.numbers
  names := (hperm.map _).nodup_iff.mpr h.names

theorem Distinct.sublist (h : Distinct entries) (hsub : others.Sublist entries) :
    Distinct others where
  numbers := h.numbers.sublist (hsub.map _)
  names := h.names.sublist (hsub.map _)

theorem holds_empty : Holds {} [] where
  names := by simp
  numbers := by simp

theorem Holds.of_perm (h : d.Holds entries) (hperm : entries.Perm others) : d.Holds others where
  names number name := (h.names number name).trans hperm.mem_iff
  numbers number name := (h.numbers number name).trans hperm.mem_iff

/-- Under a key that is new nothing is replaced. -/
theorem getElem?_insert_of_new {α β : Type} [BEq α] [Hashable α] [LawfulBEq α]
    {m : Std.HashMap α β} {key : α} (hnew : m[key]? = none) (value : β) (k : α) (v : β) :
    (m.insert key value)[k]? = some v ↔ k = key ∧ v = value ∨ m[k]? = some v := by
  rw [Std.HashMap.getElem?_insert]
  by_cases hkey : key = k
  · subst hkey
    simp [hnew, eq_comm]
  · simp [hkey, Ne.symm hkey]

/-- A call whose number and name are new takes no other's place. -/
theorem Holds.enter {e : Int × Bytes} (h : d.Holds seen) (hdistinct : Distinct (e :: seen)) :
    (d.enter e).Holds (e :: seen) := by
  have hnumber : d.names[e.1]? = none := by
    refine Option.eq_none_iff_forall_ne_some.mpr fun name hname => ?_
    have hmem := (h.names e.1 name).mp hname
    exact (List.nodup_cons.mp hdistinct.numbers).1 (List.mem_map.mpr ⟨_, hmem, rfl⟩)
  have hname : d.numbers[e.2]? = none := by
    refine Option.eq_none_iff_forall_ne_some.mpr fun number hnumber => ?_
    have hmem := (h.numbers number e.2).mp hnumber
    exact (List.nodup_cons.mp hdistinct.names).1 (List.mem_map.mpr ⟨_, hmem, rfl⟩)
  constructor
  · intro number name
    rw [Directory.enter, getElem?_insert_of_new hnumber, h.names, List.mem_cons, Prod.ext_iff]
  · intro number name
    rw [Directory.enter, getElem?_insert_of_new hname, h.numbers, List.mem_cons, Prod.ext_iff,
      and_comm]

/-- What was entered stands behind what is still to come; each step takes a call from the one to the
    other. -/
theorem Holds.enterAll : ∀ (entries : List (Int × Bytes)) {seen : List (Int × Bytes)}
    {d : Directory}, d.Holds seen → Distinct (entries ++ seen) →
    (entries.foldl Directory.enter d).Holds (entries ++ seen)
  | [], _, _, h, _ => h
  | e :: entries, seen, d, h, hdistinct => by
    have hmiddle : (entries ++ e :: seen).Perm (e :: entries ++ seen) := List.perm_middle
    have hentered : Distinct (e :: seen) :=
      hdistinct.sublist ((List.sublist_append_right entries seen).cons_cons e)
    have hrest := Holds.enterAll entries (h.enter hentered) (hdistinct.perm hmiddle)
    exact hrest.of_perm hmiddle

/-- Calls that differ in number and in name are found whatever order they were entered in. -/
theorem holds_ofEntries (h : Distinct entries) (hperm : others.Perm entries) :
    (ofEntries others).Holds entries := by
  have hdistinct : Distinct (others ++ []) := by
    rw [List.append_nil]
    exact h.perm hperm
  have hall := holds_empty.enterAll others hdistinct
  rw [List.append_nil] at hall
  exact hall.of_perm hperm

/-- The number that a name leads to leads back to the name. -/
theorem Holds.resolve?_iff (h : d.Holds entries) (number : Int) (name : Bytes) :
    d.resolve? name = some number ↔ d.names[number]? = some name ∧ 0 ≤ number := by
  rw [resolve?, Option.filter_eq_some_iff, h.numbers, h.names, decide_eq_true_eq]

end Directory

/-! ### The calls of a target -/

namespace Arch

/-- The calls of a target, each with its number and name. -/
def entries (a : Arch) : List (Int × Bytes) := a.table.map fun e => ((e.1 : Int), e.2)

theorem mem_entries {a : Arch} {number : Int} {name : Bytes} :
    (number, name) ∈ a.entries ↔ ∃ n : Nat, number = n ∧ (n, name) ∈ a.table := by
  simp only [entries, List.mem_map, Prod.mk.injEq]
  constructor
  · rintro ⟨⟨n, other⟩, hmem, rfl, rfl⟩
    exact ⟨n, rfl, hmem⟩
  · rintro ⟨n, rfl, hmem⟩
    exact ⟨(n, name), hmem, rfl, rfl⟩

theorem nonneg_of_mem_entries {a : Arch} {number : Int} {name : Bytes}
    (h : (number, name) ∈ a.entries) : 0 ≤ number := by
  obtain ⟨n, rfl, -⟩ := mem_entries.mp h
  exact Int.natCast_nonneg n

section Unambiguous

variable {a : Arch} (h : a.table.Unambiguous)
include h

theorem distinct_entries : Directory.Distinct a.entries where
  numbers := by
    have hmap : a.entries.map (·.1) = a.table.numbers.map Int.ofNat := by
      simp [entries, SyscallTable.numbers]
    rw [hmap]
    exact h.numbers.map fun _ _ heq => Int.ofNat.inj heq
  names := by
    have hmap : a.entries.map (·.2) = a.table.map (·.2) := by simp [entries]
    rw [hmap]
    exact h.names

theorem syscallName_iff {number : Int} {name : Bytes} :
    a.syscallName number = .ok name ↔ (number, name) ∈ a.entries := by
  simp only [syscallName_eq_ok, mem_entries, SyscallTable.nameOf?_eq_some h.numbers]

theorem number_iff {n : Nat} {name : Bytes} : a.number name = .ok n ↔ (n, name) ∈ a.table := by
  rw [number_eq_ok, SyscallTable.numberOf?_eq_some h.names]

theorem resolve_iff {number : Int} {name : Bytes} :
    a.resolve name = ⟨number, none⟩ ↔ (number, name) ∈ a.entries := by
  simp only [mem_entries, ← number_iff h, resolve]
  cases a.number name with
  | ok n => simp [eq_comm]
  | error e => simp

/-- The two maps of a target give its answers, whatever order its calls were entered in. -/
theorem answers_of_perm {entries : List (Int × Bytes)} (hperm : entries.Perm a.entries)
    (name : Bytes) (number : Int) :
    ((Directory.ofEntries entries).resolve? name = some number ↔
      a.resolve name = ⟨number, none⟩) ∧
    ((Directory.ofEntries entries).names[number]? = some name ↔
      a.syscallName number = .ok name) := by
  have hholds := Directory.holds_ofEntries (distinct_entries h) hperm
  constructor
  · rw [hholds.resolve?_iff, hholds.names, resolve_iff h]
    exact and_iff_left_of_imp nonneg_of_mem_entries
  · rw [hholds.names, syscallName_iff h]

theorem resolve_iff_syscallName (name : Bytes) (number : Int) :
    a.resolve name = ⟨number, none⟩ ↔ a.syscallName number = .ok name ∧ 0 ≤ number := by
  obtain ⟨hnumber, hname⟩ := answers_of_perm h (.refl a.entries) name number
  rw [← hnumber, ← hname]
  exact (Directory.holds_ofEntries (distinct_entries h) (.refl a.entries)).resolve?_iff number name

/-- What reads as a number is the name of no call. -/
theorem failure_of_numeral {name : Bytes} {number : Int}
    (hread : Numeral.readInt? name = some number) : (a.resolve name).failure ≠ none := by
  intro hnone
  have hresolve : a.resolve name = ⟨(a.resolve name).number, none⟩ :=
    congrArg (Resolution.mk _) hnone
  obtain ⟨n, -, hmem⟩ := mem_entries.mp ((resolve_iff h).mp hresolve)
  have hunread : Numeral.readInt? name = none := h.unread _ hmem
  rw [hread] at hunread
  cases hunread

end Unambiguous

theorem resolve_of_failure {a : Arch} {name : Bytes} (h : (a.resolve name).failure ≠ none) :
    a.number name = .error ⟨name, a.name⟩ ∧
      a.resolve name = ⟨-1, some (UnknownName.message ⟨name, a.name⟩)⟩ := by
  simp only [resolve, number] at h ⊢
  cases hn : a.table.numberOf? name with
  | some n => simp [hn] at h
  | none => exact ⟨rfl, rfl⟩

end Arch

/-! ### Calls to audit -/

namespace Tool.Dump

variable {a : Arch} (h : a.table.Unambiguous)
include h

/-- A call is found by its name and by every numeral of its number, and by nothing else. -/
theorem lookupCall_iff {call name : Bytes} {number : Int} :
    lookupCall a call = .ok (name, number) ↔
      a.syscallName number = .ok name ∧ (call = name ∨ Numeral.readInt? call = some number) := by
  rw [lookupCall_cases]
  constructor
  · rintro (⟨hread, hname⟩ | ⟨-, rfl, n, rfl, hnumber⟩)
    · exact ⟨hname, .inr hread⟩
    · have hentry := Arch.mem_entries.mpr ⟨n, rfl, (Arch.number_iff h).mp hnumber⟩
      exact ⟨(Arch.syscallName_iff h).mpr hentry, .inl rfl⟩
  · rintro ⟨hname, rfl | hread⟩
    · obtain ⟨n, rfl, hmem⟩ := Arch.mem_entries.mp ((Arch.syscallName_iff h).mp hname)
      exact .inr ⟨h.unread _ hmem, rfl, n, rfl, (Arch.number_iff h).mpr hmem⟩
    · exact .inl ⟨hread, hname⟩

/-- A call that is found is found by its name and by the numeral of its number. -/
theorem lookupCall_of_found {call name : Bytes} {number : Int}
    (hfound : lookupCall a call = .ok (name, number)) :
    lookupCall a name = .ok (name, number) ∧
      lookupCall a (Numeral.signed number) = .ok (name, number) := by
  obtain ⟨hname, -⟩ := (lookupCall_iff h).mp hfound
  obtain ⟨n, rfl, hmem⟩ := Arch.mem_entries.mp ((Arch.syscallName_iff h).mp hname)
  have hread := Numeral.readInt?_signed (h.fits _ hmem)
  exact ⟨(lookupCall_iff h).mpr ⟨hname, .inl rfl⟩, (lookupCall_iff h).mpr ⟨hname, .inr hread⟩⟩

end Tool.Dump

/-- Names and numbers of a target's calls lead to each other. The two maps that are filled from its
    calls in any order give its answers. A name has a number exactly if the number has that name
    and is not negative, and a name without a number gets -1 and the failure that it is unknown. A
    call to audit is found exactly by its name and by the numerals of its number, so whatever finds
    it, its name and the plain numeral of its number find the same. -/
theorem Arch.lookups_inverse {request : Bytes} {a : Arch} (h : lookup request = .ok a) :
    (∀ entries, entries.Perm a.entries → ∀ (name : Bytes) (number : Int),
      ((Directory.ofEntries entries).resolve? name = some number ↔
        a.resolve name = ⟨number, none⟩) ∧
      ((Directory.ofEntries entries).names[number]? = some name ↔
        a.syscallName number = .ok name)) ∧
    (∀ (name : Bytes) (number : Int), a.resolve name = ⟨number, none⟩ ↔
      a.syscallName number = .ok name ∧ 0 ≤ number) ∧
    (∀ name : Bytes, (a.resolve name).failure ≠ none →
      a.number name = .error ⟨name, a.name⟩ ∧
      a.resolve name =
        ⟨-1, some (utf8 "unknown syscall " ++ Text.quoted name ++ utf8 " on " ++ a.name)⟩) ∧
    ∀ (call name : Bytes) (number : Int),
      (Tool.Dump.lookupCall a call = .ok (name, number) ↔
        a.syscallName number = .ok name ∧
          (call = name ∨ Numeral.readInt? call = some number)) ∧
      (Tool.Dump.lookupCall a call = .ok (name, number) →
        Tool.Dump.lookupCall a name = .ok (name, number) ∧
        Tool.Dump.lookupCall a (Numeral.signed number) = .ok (name, number)) := by
  have htable := unambiguous_of_lookup h
  refine ⟨?_, resolve_iff_syscallName htable, ?_, ?_⟩
  · intro entries hperm name number
    exact answers_of_perm htable hperm name number
  · intro name hfailure
    exact resolve_of_failure hfailure
  · intro call name number
    exact ⟨Tool.Dump.lookupCall_iff htable, Tool.Dump.lookupCall_of_found htable⟩

/-- A numeral finds a call but is not its name, also with a sign and with leading zeros. -/
theorem Arch.lookups_inverse_arm : ∃ a, lookup (utf8 "ARM") = .ok a ∧
    (Directory.ofEntries a.entries.reverse).resolve? (utf8 "restart_syscall") = some 0 ∧
    (Directory.ofEntries a.entries.reverse).names[(0 : Int)]? = some (utf8 "restart_syscall") ∧
    a.resolve (utf8 "restart_syscall") = ⟨0, none⟩ ∧
    a.resolve (utf8 "0") = ⟨-1, some (utf8 "unknown syscall \"0\" on arm")⟩ ∧
    Tool.Dump.lookupCall a (utf8 "-00") = .ok (utf8 "restart_syscall", 0) ∧
    Tool.Dump.lookupCall a (utf8 "restart_syscall") = .ok (utf8 "restart_syscall", 0) ∧
    Tool.Dump.lookupCall a (utf8 "0") = .ok (utf8 "restart_syscall", 0) := by
  have harch : lookup (utf8 "ARM") = .ok (ofPlatform (utf8 "ARM") .arm) := rfl
  have hname : (ofPlatform (utf8 "ARM") .arm).syscallName 0 = .ok (utf8 "restart_syscall") := rfl
  have hread : Numeral.readInt? (utf8 "0") = some 0 := by decide +kernel
  have hfailure := failure_of_numeral (unambiguous_of_lookup harch) hread
  have htext : utf8 "unknown syscall " ++ Text.quoted (utf8 "0") ++ utf8 " on " ++ utf8 "arm" =
      utf8 "unknown syscall \"0\" on arm" := by decide +kernel
  obtain ⟨hmaps, hnumber, hunknown, hcalls⟩ := lookups_inverse harch
  obtain ⟨hresolve, hnames⟩ := hmaps _ (List.reverse_perm _) (utf8 "restart_syscall") 0
  have hresolved := (hnumber (utf8 "restart_syscall") 0).mpr ⟨hname, Int.le_refl 0⟩
  have hcall := (hcalls (utf8 "-00") (utf8 "restart_syscall") 0).1.mpr ⟨hname, .inr rfl⟩
  obtain ⟨hbyName, hbyNumeral⟩ := (hcalls _ _ _).2 hcall
  exact ⟨_, harch, hresolve.mpr hresolved, hnames.mpr hname, hresolved,
    htext ▸ (hunknown _ hfailure).2, hcall, hbyName, hbyNumeral⟩

end SyscallFilter
