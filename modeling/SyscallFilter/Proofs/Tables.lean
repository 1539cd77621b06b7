import Mathlib.Data.List.Nodup
import SyscallFilter.Allowlist

/-! The tables of system calls are well formed: no name stands twice, no number has the x32 bit, and
    a filter has room for all calls of a table. So the number of a name is the one it stands with,
    and every call of a target can have a rule of its own. No number stands twice either and no name
    reads as a number, so a call can be told by either of the two.

    To see that the names of a table differ, each is given a small number as its fingerprint, and
    the fingerprints are put into a set one after another. The set is the number that has their
    bits. -/

namespace SyscallFilter

namespace SyscallTable

/-- The numbers of all calls in a table. -/
def numbers (t : SyscallTable) : List Nat := t.map (·.1)

/-- What holds of the tables of all targets. -/
structure WellFormed (t : SyscallTable) : Prop where
  distinct : (t.map (·.2)).Nodup
  small : ∀ e ∈ t, e.1 < 0x40000000
  bounded : t.numbers.length ≤ Allowlist.maxRules

/-- What it takes for a name or a number to tell which call of a table is meant. -/
structure Unambiguous (t : SyscallTable) : Prop where
  names : (t.map (·.2)).Nodup
  numbers : t.numbers.Nodup
  /-- No name can be taken for a number. -/
  unread : ∀ e ∈ t, Numeral.readInt? e.2 = none
  fits : ∀ e ∈ t, Numeral.fitsWord e.1

theorem numberOf?_cons (m : Nat) (other : Bytes) (t : SyscallTable) (name : Bytes) :
    numberOf? ((m, other) :: t) name = if other = name then some m else numberOf? t name := by
  by_cases h : other = name <;> simp [numberOf?, h]

/-- The number of a name is the one that it stands with. -/
theorem numberOf?_eq_some {t : SyscallTable} (h : (t.map (·.2)).Nodup) {name : Bytes} {n : Nat} :
    t.numberOf? name = some n ↔ (n, name) ∈ t := by
  induction t with
  | nil => simp [numberOf?]
  | cons e t ih =>
    obtain ⟨m, other⟩ := e
    obtain ⟨hnot, hrest⟩ := List.nodup_cons.mp h
    rw [numberOf?_cons, List.mem_cons]
    by_cases ho : other = name
    · have hnone : (n, name) ∉ t := fun hs => hnot (List.mem_map.mpr ⟨(n, name), hs, ho.symm⟩)
      simp [ho, hnone, eq_comm]
    · rw [if_neg ho, ih hrest]
      simp [Ne.symm ho]

theorem mem_of_nameOf? {t : SyscallTable} {n : Nat} {name : Bytes}
    (h : t.nameOf? n = some name) : (n, name) ∈ t := by
  obtain ⟨⟨m, other⟩, hfind, rfl⟩ := Option.map_eq_some_iff.mp h
  have hm : m = n := by simpa using List.find?_some hfind
  exact hm ▸ List.mem_of_find?_eq_some hfind

/-- The name of a number is the one that it stands with. -/
theorem nameOf?_eq_some {t : SyscallTable} (h : t.numbers.Nodup) {n : Nat} {name : Bytes} :
    t.nameOf? n = some name ↔ (n, name) ∈ t := by
  refine ⟨mem_of_nameOf?, fun hmem => ?_⟩
  cases hname : t.nameOf? n with
  | none =>
    have hnot := List.find?_eq_none.mp (Option.map_eq_none_iff.mp hname) _ hmem
    exact absurd (beq_self_eq_true n) hnot
  | some other =>
    have heq := List.inj_on_of_nodup_map h (mem_of_nameOf? hname) hmem rfl
    rw [(Prod.mk.inj heq).2]

/-! ### The names of a table -/

/-- Whether numbers are new to a set, given as bits, and differ from each other. -/
def fresh (set : Nat) : List Nat → Bool
  | [] => true
  | n :: rest => !set.testBit n && fresh (set ||| 1 <<< n) rest

theorem nodup_of_fresh : ∀ {set : Nat} {l : List Nat}, fresh set l = true →
    l.Nodup ∧ ∀ n ∈ l, set.testBit n = false
  | _, [], _ => ⟨List.nodup_nil, fun _ hn => absurd hn List.not_mem_nil⟩
  | set, n :: rest, h => by
    rw [fresh, Bool.and_eq_true, Bool.not_eq_true'] at h
    obtain ⟨hnew, hrest⟩ := h
    obtain ⟨hnodup, hbits⟩ := nodup_of_fresh hrest
    have hbit : ∀ m ∈ rest, m ≠ n ∧ set.testBit m = false := by
      intro m hm
      have hor := hbits m hm
      rw [Nat.testBit_or, Bool.or_eq_false_iff, Nat.one_shiftLeft, Nat.testBit_two_pow] at hor
      exact ⟨fun he => of_decide_eq_false hor.2 he.symm, hor.1⟩
    refine ⟨List.nodup_cons.mpr ⟨fun hn => (hbit n hn).1 rfl, hnodup⟩, ?_⟩
    intro m hm
    rcases List.mem_cons.mp hm with rfl | hm
    · exact hnew
    · exact (hbit m hm).2

/-- A number for a name. The modulus is one that keeps the names of each table apart. -/
def fingerprint (name : Bytes) : Nat :=
  name.foldl (fun a b => a * 256 + b.toNat) 0 % 15765

/-- The bytes of a text are the ones it is stored with, which takes no decoding. -/
theorem utf8_eq_stored (s : String) : utf8 s = s.toByteArray.data.toList := by
  rw [utf8, ← String.utf8Encode_toList]
  simp only [List.utf8Encode, List.data_toByteArray, List.toList_toArray]
  rfl

theorem nodup_names {entries : List (Nat × String)}
    (h : fresh 0 (entries.map fun e => fingerprint e.2.toByteArray.data.toList) = true) :
    ((ofNames entries).map (·.2)).Nodup := by
  have hmap : ((ofNames entries).map (·.2)).map fingerprint =
      entries.map fun e => fingerprint e.2.toByteArray.data.toList := by
    simp only [ofNames, List.map_map, Function.comp_def, utf8_eq_stored]
  refine List.Nodup.of_map fingerprint ?_
  rw [hmap]
  exact (nodup_of_fresh h).1

theorem unread_names {entries : List (Nat × String)}
    (h : ∀ e ∈ entries, Numeral.readInt? e.2.toByteArray.data.toList = none) :
    ∀ e ∈ ofNames entries, Numeral.readInt? e.2 = none := by
  simpa only [ofNames, List.forall_mem_map, utf8_eq_stored] using h

/-! ### The tables -/

/-- The tables of the families. -/
def IsKnown (t : SyscallTable) : Prop := t = x8664 ∨ t = i386 ∨ t = arm ∨ t = aarch64

theorem IsKnown.wellFormed {t : SyscallTable} (h : t.IsKnown) : t.WellFormed where
  distinct := by
    rcases h with rfl | rfl | rfl | rfl <;> exact nodup_names (by decide +kernel)
  small := by
    rcases h with rfl | rfl | rfl | rfl <;> decide +kernel
  bounded := by
    rcases h with rfl | rfl | rfl | rfl <;> decide +kernel

theorem wellFormed_x8664 : WellFormed x8664 := IsKnown.wellFormed (.inl rfl)

theorem IsKnown.unambiguous {t : SyscallTable} (h : t.IsKnown) : t.Unambiguous where
  names := h.wellFormed.distinct
  numbers := by
    -- The tables are in the order of their numbers.
    have hordered : t.numbers.IsChain (· < ·) := by
      rcases h with rfl | rfl | rfl | rfl <;> decide +kernel
    exact (List.isChain_iff_pairwise.mp hordered).imp Nat.ne_of_lt
  unread := by
    rcases h with rfl | rfl | rfl | rfl <;> exact unread_names (by decide +kernel)
  fits := by
    intro e he
    have hsmall := h.wellFormed.small e he
    simp only [Numeral.fitsWord, Bool.and_eq_true, decide_eq_true_eq]
    omega

end SyscallTable

/-! ### Targets -/

/-- A family that is found has one of the tables. -/
theorem Platform.isKnown_of_find? {name : Bytes} {p : Platform} (h : find? name = some p) :
    p.table.IsKnown := by
  obtain ⟨before, after, hknown, -⟩ := List.lookup_eq_some_iff.mp h
  have hmem : p ∈ known.map (·.2) := by simp [hknown]
  simp only [known, List.map_cons, List.map_nil, List.mem_cons, List.not_mem_nil, or_false] at hmem
  rcases hmem with rfl | rfl | rfl | rfl | rfl | rfl | rfl
  · exact .inl rfl
  · exact .inl rfl
  · exact .inr (.inl rfl)
  · exact .inr (.inl rfl)
  · exact .inr (.inr (.inl rfl))
  · exact .inr (.inr (.inr rfl))
  · exact .inr (.inr (.inr rfl))

/-- A target is a family under the name that was asked for. -/
theorem Arch.lookup_eq_ok {name : Bytes} {target : Arch} (h : lookup name = .ok target) :
    ∃ p, Platform.find? (Text.lower (canonical name)) = some p ∧
      target = ofPlatform (canonical name) p := by
  simp only [lookup] at h
  split at h
  · exact absurd h (by simp)
  · split at h
    · next p hp => exact ⟨p, hp, (Except.ok.inj h).symm⟩
    · exact absurd h (by simp)

theorem Arch.lower_host : Text.lower host = host := by decide +kernel

theorem Platform.find?_host : find? Arch.host = some x8664 := List.lookup_cons_self

/-- The family of the host is found under every spelling of the host's name. -/
theorem Arch.lookup_of_lower {name : Bytes} (h : Text.lower (canonical name) = host) :
    lookup name = .ok (ofPlatform (canonical name) .x8664) := by
  have hx32 : host ≠ x32 := by decide +kernel
  simp only [lookup, h, if_neg hx32, Platform.find?_host]

/-- The host is a target. -/
theorem Arch.lookup_host {name : Bytes} (h : canonical name = host) :
    lookup name = .ok (ofPlatform host .x8664) := by
  rw [lookup_of_lower (h ▸ lower_host), h]

theorem Arch.isKnown_of_lookup {name : Bytes} {target : Arch} (h : lookup name = .ok target) :
    target.table.IsKnown := by
  obtain ⟨p, hp, rfl⟩ := lookup_eq_ok h
  exact Platform.isKnown_of_find? hp

theorem Arch.wellFormed_of_lookup {name : Bytes} {target : Arch} (h : lookup name = .ok target) :
    target.table.WellFormed :=
  (isKnown_of_lookup h).wellFormed

theorem Arch.unambiguous_of_lookup {name : Bytes} {target : Arch} (h : lookup name = .ok target) :
    target.table.Unambiguous :=
  (isKnown_of_lookup h).unambiguous

/-! ### Answers of a target -/

theorem Arch.number_eq_ok {a : Arch} {name : Bytes} {n : Nat} :
    a.number name = .ok n ↔ a.table.numberOf? name = some n := by
  rw [number]
  cases a.table.numberOf? name <;> simp

theorem Arch.syscallName_eq_ok {a : Arch} {number : Int} {name : Bytes} :
    a.syscallName number = .ok name ↔ ∃ n : Nat, number = n ∧ a.table.nameOf? n = some name := by
  rw [syscallName]
  by_cases hsign : 0 ≤ number
  · obtain ⟨n, rfl⟩ := Int.eq_ofNat_of_zero_le hsign
    rw [if_pos hsign, Int.toNat_natCast]
    constructor
    · intro h
      split at h
      · next found hfound => exact ⟨n, rfl, hfound.trans (congrArg some (Except.ok.inj h))⟩
      · cases h
    · rintro ⟨m, hm, hname⟩
      obtain rfl := Int.ofNat.inj hm
      simp only [hname]
  · rw [if_neg hsign]
    constructor
    · intro h
      cases h
    · rintro ⟨n, rfl, -⟩
      exact absurd (Int.natCast_nonneg n) hsign

end SyscallFilter
