import Mathlib.Data.List.Perm.Subperm
import SyscallFilter.Allowlist

/-! An allowlist is built by adding rules, one call after another, and some of the calls fail. What
    holds of every allowlist that can be built that way is the invariant `Sound`: each number has
    one rule, the set of seen numbers is the set of the rules' numbers, every rule allows, all other
    calls are refused, and the bound on the number of rules is kept.

    `add_cases` says once what a call can do. The numbers with a rule are then those of the calls
    that do not fail. As long as all numbers come from a list that is not longer than the bound, no
    call fails, and each number gets its rule.

    How the next call ends can be read off its number and the rules: a negative number fails, a
    number that has a rule is passed over even if there is no room left, and only then does a full
    allowlist refuse. -/

namespace SyscallFilter.Allowlist

/-- The numbers that have a rule, in order. -/
def numbers (p : Allowlist) : List Nat := p.rules.map (·.number)

/-- The allowlist with one more rule. -/
def withRule (p : Allowlist) (n : Nat) (name : Bytes) : Allowlist :=
  { p with rules := p.rules ++ [⟨n, name, .allow⟩], seen := p.seen.insert n }

/-- What a call answers: whether its rule is new, or why there can be none. -/
def answer (p : Allowlist) (number : Int) (name : Bytes) : Except AddError Bool :=
  (p.add number name).1

/-- The allowlist behind a call that adds a number and a name, whatever the call answers. -/
def tryAdd (p : Allowlist) (entry : Int × Bytes) : Allowlist := (p.add entry.1 entry.2).2

/-- The allowlist behind calls, one after another. -/
def addAll (p : Allowlist) (entries : List (Int × Bytes)) : Allowlist := entries.foldl tryAdd p

/-- What holds of every allowlist that can be built. -/
structure Sound (p : Allowlist) : Prop where
  distinct : p.numbers.Nodup
  seen : ∀ n, p.seen.contains n = true ↔ n ∈ p.numbers
  allows : ∀ r ∈ p.rules, r.action = .allow
  fallback : p.fallback = .kill
  bounded : p.size ≤ maxRules

/-! ### One call -/

/-- All that a call can do. -/
theorem add_cases (p : Allowlist) (number : Int) (name : Bytes) :
    (number < 0 ∧ p.add number name = (.error (.negative number name), p)) ∨
    ∃ n : Nat, number = n ∧
      ((p.seen.contains n = true ∧ p.add number name = (.ok false, p)) ∨
      (p.seen.contains n = false ∧ maxRules ≤ p.size ∧
        p.add number name = (.error (.full name), p)) ∨
      (p.seen.contains n = false ∧ p.size < maxRules ∧
        p.add number name = (.ok true, p.withRule n name))) := by
  cases number with
  | negSucc m => exact Or.inl ⟨Int.negSucc_lt_zero m, rfl⟩
  | ofNat n =>
    refine Or.inr ⟨n, rfl, ?_⟩
    cases hs : p.seen.contains n with
    | true => exact Or.inl ⟨rfl, by simp [add, hs]⟩
    | false =>
      by_cases hm : maxRules ≤ p.size
      · exact Or.inr (Or.inl ⟨rfl, hm, by simp [add, hs, hm]⟩)
      · exact Or.inr (Or.inr ⟨rfl, Nat.lt_of_not_le hm, by simp [add, hs, hm, withRule]⟩)

theorem numbers_withRule (p : Allowlist) (n : Nat) (name : Bytes) :
    (p.withRule n name).numbers = p.numbers ++ [n] := by
  simp [numbers, withRule]

theorem addAll_append (p : Allowlist) (entries more : List (Int × Bytes)) :
    p.addAll (entries ++ more) = (p.addAll entries).addAll more := List.foldl_append

theorem length_numbers (p : Allowlist) : p.numbers.length = p.size := by
  simp [numbers, size]

/-- A call that adds keeps the allowlist or gives a number that is new its rule. -/
theorem tryAdd_cases (p : Allowlist) (entry : Int × Bytes) :
    p.tryAdd entry = p ∨
    ∃ n : Nat, entry.1 = n ∧ p.seen.contains n = false ∧ p.size < maxRules ∧
      p.tryAdd entry = p.withRule n entry.2 := by
  rcases add_cases p entry.1 entry.2 with
    ⟨-, h⟩ | ⟨n, hn, ⟨-, h⟩ | ⟨-, -, h⟩ | ⟨hs, hm, h⟩⟩
  · exact Or.inl (by rw [tryAdd, h])
  · exact Or.inl (by rw [tryAdd, h])
  · exact Or.inl (by rw [tryAdd, h])
  · exact Or.inr ⟨n, hn, hs, hm, by rw [tryAdd, h]⟩

/-! ### The invariant -/

theorem sound_empty (a : Arch) : (empty a).Sound where
  distinct := List.nodup_nil
  seen := by simp [empty, numbers]
  allows := by simp [empty]
  fallback := rfl
  bounded := Nat.zero_le _

theorem Sound.not_mem_numbers {p : Allowlist} (h : p.Sound) {n : Nat}
    (hs : p.seen.contains n = false) : n ∉ p.numbers := by
  intro hmem
  rw [(h.seen n).mpr hmem] at hs
  exact absurd hs (by simp)

theorem Sound.withRule {p : Allowlist} (h : p.Sound) {n : Nat} (hs : p.seen.contains n = false)
    (hm : p.size < maxRules) (name : Bytes) : (p.withRule n name).Sound where
  distinct := by
    have hn : n ∉ p.numbers := h.not_mem_numbers hs
    rw [numbers_withRule]
    refine List.nodup_append.mpr ⟨h.distinct, by simp, ?_⟩
    rintro a ha b hb rfl
    exact hn (List.mem_singleton.mp hb ▸ ha)
  seen m := by
    have hseen := h.seen m
    rw [numbers_withRule, List.mem_append, List.mem_singleton, ← hseen]
    simp only [Allowlist.withRule, Std.TreeSet.contains_insert, Bool.or_eq_true, beq_iff_eq,
      Nat.compare_eq_eq]
    exact ⟨fun h => h.symm.imp_right Eq.symm, fun h => h.symm.imp_left Eq.symm⟩
  allows r hr := by
    rcases List.mem_append.mp hr with hr | hr
    · exact h.allows r hr
    · rw [List.mem_singleton.mp hr]
  fallback := h.fallback
  bounded := by
    rw [← length_numbers, numbers_withRule, List.length_append, length_numbers]
    exact hm

theorem Sound.tryAdd {p : Allowlist} (h : p.Sound) (entry : Int × Bytes) :
    (p.tryAdd entry).Sound := by
  rcases tryAdd_cases p entry with he | ⟨n, -, hs, hm, he⟩
  · rw [he]; exact h
  · rw [he]; exact h.withRule hs hm entry.2

theorem Sound.addAll {p : Allowlist} (h : p.Sound) (entries : List (Int × Bytes)) :
    (p.addAll entries).Sound := by
  induction entries generalizing p with
  | nil => exact h
  | cons entry entries ih => exact ih (h.tryAdd entry)

theorem Sound.verdict_fallback {p : Allowlist} (h : p.Sound) :
    p.fallback.verdict = Verdict.killProcess := by
  rw [h.fallback]
  rfl

/-! ### Where rules come from -/

theorem arch_tryAdd (p : Allowlist) (entry : Int × Bytes) : (p.tryAdd entry).arch = p.arch := by
  rcases tryAdd_cases p entry with he | ⟨n, -, -, -, he⟩ <;> rw [he]
  rfl

theorem arch_addAll (p : Allowlist) (entries : List (Int × Bytes)) :
    (p.addAll entries).arch = p.arch := by
  induction entries generalizing p with
  | nil => rfl
  | cons entry entries ih => exact (ih (p.tryAdd entry)).trans (arch_tryAdd p entry)

/-- A rule was there before or was added under its number and name. -/
theorem mem_rules_addAll {p : Allowlist} {entries : List (Int × Bytes)} {r : Rule}
    (h : r ∈ (p.addAll entries).rules) :
    r ∈ p.rules ∨ ((r.number : Int), r.name) ∈ entries := by
  induction entries generalizing p with
  | nil => exact Or.inl h
  | cons entry entries ih =>
    rcases ih h with hr | hr
    · rcases tryAdd_cases p entry with he | ⟨n, hn, -, -, he⟩
      · exact Or.inl (he ▸ hr)
      · rw [he] at hr
        rcases List.mem_append.mp hr with hr | hr
        · exact Or.inl hr
        · rw [List.mem_singleton.mp hr]
          exact Or.inr (List.mem_cons.mpr (Or.inl (Prod.ext hn.symm rfl)))
    · exact Or.inr (List.mem_cons_of_mem entry hr)

/-! ### Accepted calls -/

/-- The numbers of the calls that do not fail, each call made at its turn. -/
def accepted (p : Allowlist) : List (Int × Bytes) → List Int
  | [] => []
  | entry :: entries =>
    match p.add entry.1 entry.2 with
    | (.ok _, p') => entry.1 :: accepted p' entries
    | (.error _, p') => accepted p' entries

theorem accepted_of_ok {p p' : Allowlist} {entry : Int × Bytes} {new : Bool}
    (h : p.add entry.1 entry.2 = (.ok new, p')) (entries : List (Int × Bytes)) :
    p.tryAdd entry = p' ∧ p.accepted (entry :: entries) = entry.1 :: p'.accepted entries := by
  rw [tryAdd, accepted, h]
  exact ⟨rfl, rfl⟩

theorem accepted_of_error {p p' : Allowlist} {entry : Int × Bytes} {cause : AddError}
    (h : p.add entry.1 entry.2 = (.error cause, p')) (entries : List (Int × Bytes)) :
    p.tryAdd entry = p' ∧ p.accepted (entry :: entries) = p'.accepted entries := by
  rw [tryAdd, accepted, h]
  exact ⟨rfl, rfl⟩

/-- A number has a rule in the end exactly when it had one before or a call with it did not fail. -/
theorem mem_numbers_iff_accepted {p : Allowlist} (h : p.Sound) (entries : List (Int × Bytes))
    (number : Int) : (∃ n ∈ (p.addAll entries).numbers, (n : Int) = number) ↔
      (∃ n ∈ p.numbers, (n : Int) = number) ∨ number ∈ p.accepted entries := by
  induction entries generalizing p with
  | nil => exact (or_iff_left List.not_mem_nil).symm
  | cons entry entries ih =>
    have hrun : (∃ n ∈ (p.addAll (entry :: entries)).numbers, (n : Int) = number) ↔
        (∃ n ∈ (p.tryAdd entry).numbers, (n : Int) = number) ∨
          number ∈ (p.tryAdd entry).accepted entries := ih (h.tryAdd entry)
    rw [hrun]
    rcases add_cases p entry.1 entry.2 with
      ⟨-, ha⟩ | ⟨n, hn, ⟨hs, ha⟩ | ⟨-, -, ha⟩ | ⟨-, -, ha⟩⟩
    · obtain ⟨hstep, hlist⟩ := accepted_of_error ha entries
      rw [hstep, hlist]
    · -- The number has its rule already, so that the call brings none that is new.
      obtain ⟨hstep, hlist⟩ := accepted_of_ok ha entries
      have hold : n ∈ p.numbers := (h.seen n).mp hs
      rw [hstep, hlist, hn, List.mem_cons]
      constructor
      · rintro (hm | hm)
        · exact Or.inl hm
        · exact Or.inr (Or.inr hm)
      · rintro (hm | rfl | hm)
        · exact Or.inl hm
        · exact Or.inl ⟨n, hold, rfl⟩
        · exact Or.inr hm
    · obtain ⟨hstep, hlist⟩ := accepted_of_error ha entries
      rw [hstep, hlist]
    · obtain ⟨hstep, hlist⟩ := accepted_of_ok ha entries
      rw [hstep, hlist, hn, numbers_withRule, List.mem_cons, ← or_assoc, eq_comm (a := number)]
      simp only [List.mem_append, List.mem_singleton, or_and_right, exists_or, exists_eq_left]

/-! ### Room for all numbers -/

section Bounded

variable {p : Allowlist} {pool : List Nat} (hp : p.Sound) (hsub : p.numbers ⊆ pool)
  (hu : pool.length ≤ maxRules)
include hp hsub hu

/-- A number from a list that is not longer than the bound has a rule already or gets one. -/
theorem add_of_bounded {n : Nat} (hn : n ∈ pool) (name : Bytes) :
    (n ∈ p.numbers ∧ p.add n name = (.ok false, p)) ∨
    (n ∉ p.numbers ∧ p.add n name = (.ok true, p.withRule n name)) := by
  rcases add_cases p n name with ⟨hneg, -⟩ | ⟨m, hm, ⟨hs, h⟩ | ⟨hs, hfull, -⟩ | ⟨hs, -, h⟩⟩
  · omega
  · obtain rfl : n = m := Int.ofNat_inj.mp hm
    exact Or.inl ⟨(hp.seen n).mp hs, h⟩
  · -- All rules and the new number fit into the list, so there is room for one more.
    obtain rfl : n = m := Int.ofNat_inj.mp hm
    have hnew : n ∉ p.numbers := hp.not_mem_numbers hs
    have hle := (List.subperm_of_subset (List.nodup_cons.mpr ⟨hnew, hp.distinct⟩)
      (List.cons_subset.mpr ⟨hn, hsub⟩)).length_le
    rw [List.length_cons, length_numbers] at hle
    omega
  · obtain rfl : n = m := Int.ofNat_inj.mp hm
    exact Or.inr ⟨hp.not_mem_numbers hs, h⟩

theorem mem_numbers_tryAdd {n : Nat} (hn : n ∈ pool) (name : Bytes) (m : Nat) :
    m ∈ (p.tryAdd (n, name)).numbers ↔ m ∈ p.numbers ∨ m = n := by
  rcases add_of_bounded hp hsub hu hn name with ⟨hmem, h⟩ | ⟨-, h⟩
  · rw [tryAdd, h]
    exact ⟨Or.inl, fun hm => hm.elim id fun he => he ▸ hmem⟩
  · rw [tryAdd, h, numbers_withRule, List.mem_append, List.mem_singleton]

/-- Every number that is added has a rule in the end. -/
theorem mem_numbers_addAll {entries : List (Int × Bytes)}
    (he : ∀ e ∈ entries, ∃ n ∈ pool, e.1 = (n : Int)) (m : Nat) :
    m ∈ (p.addAll entries).numbers ↔ m ∈ p.numbers ∨ ∃ name, ((m : Int), name) ∈ entries := by
  induction entries generalizing p with
  | nil => simp [addAll]
  | cons entry entries ih =>
    obtain ⟨number, name⟩ := entry
    obtain ⟨n, hn, rfl⟩ := he _ List.mem_cons_self
    have hstep := mem_numbers_tryAdd hp hsub hu hn name
    have hsub' : (p.tryAdd (n, name)).numbers ⊆ pool := by
      intro k hk
      rcases (hstep k).mp hk with hk | rfl
      · exact hsub hk
      · exact hn
    have hrest := ih (hp.tryAdd (n, name)) hsub' (fun e h => he e (List.mem_cons_of_mem _ h))
    rw [show p.addAll (((n : Int), name) :: entries) = (p.tryAdd (n, name)).addAll entries from rfl,
      hrest, hstep m]
    constructor
    · rintro ((h | rfl) | ⟨name', h⟩)
      · exact Or.inl h
      · exact Or.inr ⟨name, List.mem_cons_self⟩
      · exact Or.inr ⟨name', List.mem_cons_of_mem _ h⟩
    · rintro (h | ⟨name', h⟩)
      · exact Or.inl (Or.inl h)
      · rcases List.mem_cons.mp h with h | h
        · exact Or.inl (Or.inr (Int.ofNat_inj.mp (Prod.mk.inj h).1))
        · exact Or.inr ⟨name', h⟩

end Bounded

/-! ### Any call behind any calls -/

/-- Whether a number has a rule. -/
def Has (p : Allowlist) (number : Int) : Prop := ∃ n ∈ p.numbers, (n : Int) = number

/-- What the next call has to do: how it ends is decided by its number and the rules, in the order
    negative, known, full, and only a call that ends in none of these ways changes the allowlist. -/
structure Serves (p : Allowlist) (number : Int) (name : Bytes) : Prop where
  negative : p.answer number name = .error (.negative number name) ↔ number < 0
  known : p.answer number name = .ok false ↔ p.Has number
  full : p.answer number name = .error (.full name) ↔
    0 ≤ number ∧ ¬ p.Has number ∧ p.size = 2044
  new : p.answer number name = .ok true ↔ 0 ≤ number ∧ ¬ p.Has number ∧ p.size < 2044
  unchanged : p.answer number name ≠ .ok true → p.tryAdd (number, name) = p
  appended : p.answer number name = .ok true →
    (p.tryAdd (number, name)).rules = p.rules ++ [⟨number.toNat, name, .allow⟩]

theorem nonneg_of_has {p : Allowlist} {number : Int} (h : p.Has number) : 0 ≤ number := by
  obtain ⟨n, -, rfl⟩ := h
  exact Int.natCast_nonneg n

theorem has_natCast {p : Allowlist} {n : Nat} : p.Has n ↔ n ∈ p.numbers := by
  constructor
  · rintro ⟨m, hm, he⟩
    exact Int.ofNat_inj.mp he ▸ hm
  · intro hn
    exact ⟨n, hn, rfl⟩

/-- All that a call can answer and leave behind: the seen numbers of a sound allowlist are those
    that have a rule. -/
theorem Sound.call_cases {p : Allowlist} (h : p.Sound) (number : Int) (name : Bytes) :
    (number < 0 ∧ p.answer number name = .error (.negative number name) ∧
      p.tryAdd (number, name) = p) ∨
    (p.Has number ∧ p.answer number name = .ok false ∧ p.tryAdd (number, name) = p) ∨
    (0 ≤ number ∧ ¬ p.Has number ∧ p.size = maxRules ∧
      p.answer number name = .error (.full name) ∧ p.tryAdd (number, name) = p) ∨
    (0 ≤ number ∧ ¬ p.Has number ∧ p.size < maxRules ∧ p.answer number name = .ok true ∧
      p.tryAdd (number, name) = p.withRule number.toNat name) := by
  rw [answer, Allowlist.tryAdd]
  rcases add_cases p number name with
    ⟨hneg, ha⟩ | ⟨n, rfl, ⟨hs, ha⟩ | ⟨hs, hm, ha⟩ | ⟨hs, hm, ha⟩⟩
  · rw [ha]
    exact Or.inl ⟨hneg, rfl, rfl⟩
  · rw [ha]
    exact Or.inr (Or.inl ⟨has_natCast.mpr ((h.seen n).mp hs), rfl, rfl⟩)
  · have hnew : ¬ p.Has n := fun hn => h.not_mem_numbers hs (has_natCast.mp hn)
    have hsize : p.size = maxRules := Nat.le_antisymm h.bounded hm
    rw [ha]
    exact Or.inr (Or.inr (Or.inl ⟨Int.natCast_nonneg n, hnew, hsize, rfl, rfl⟩))
  · have hnew : ¬ p.Has n := fun hn => h.not_mem_numbers hs (has_natCast.mp hn)
    rw [ha]
    exact Or.inr (Or.inr (Or.inr ⟨Int.natCast_nonneg n, hnew, hm, rfl, rfl⟩))

theorem Sound.serves {p : Allowlist} (h : p.Sound) (number : Int) (name : Bytes) :
    p.Serves number name := by
  rcases h.call_cases number name with ⟨hneg, hanswer, hkeep⟩ | ⟨hhas, hanswer, hkeep⟩ |
    ⟨hnonneg, hnew, hsize, hanswer, hkeep⟩ | ⟨hnonneg, hnew, hsize, hanswer, hadded⟩
  · have hnonneg : ¬ 0 ≤ number := Int.not_le.mpr hneg
    have hnew : ¬ p.Has number := fun hhas => hnonneg (nonneg_of_has hhas)
    constructor <;> simp [hanswer, hneg, hnonneg, hnew, hkeep]
  · have hnonneg : 0 ≤ number := nonneg_of_has hhas
    constructor <;> simp [hanswer, hhas, hnonneg, hkeep]
  · rw [maxRules_eq] at hsize
    constructor <;> simp [hanswer, hnonneg, hnew, hsize, hkeep]
  · rw [maxRules_eq] at hsize
    have hroom : p.size ≠ 2044 := Nat.ne_of_lt hsize
    constructor <;> simp [hanswer, hnonneg, hnew, hsize, hroom, hadded, Allowlist.withRule]

/-- Calls with the numbers below a bound. -/
def callsBelow (k : Nat) : List (Int × Bytes) := (List.range k).map fun n : Nat => ((n : Int), [])

/-- Calls with different numbers each get a rule, up to the bound. -/
theorem size_addAll_callsBelow (a : Arch) {k : Nat} (hk : k ≤ maxRules) :
    ((empty a).addAll (callsBelow k)).size = k := by
  have hsound := (sound_empty a).addAll (callsBelow k)
  have hpool : ∀ e ∈ callsBelow k, ∃ n ∈ List.range k, e.1 = (n : Int) := by
    intro e he
    obtain ⟨n, hn, rfl⟩ := List.mem_map.mp he
    exact ⟨n, hn, rfl⟩
  have hmem : ∀ n, n ∈ ((empty a).addAll (callsBelow k)).numbers ↔ n ∈ List.range k := by
    intro n
    rw [mem_numbers_addAll (sound_empty a) (List.nil_subset _) (by simpa using hk) hpool]
    constructor
    · rintro (hn | ⟨name, hn⟩)
      · exact absurd hn List.not_mem_nil
      · obtain ⟨m, hm, he⟩ := List.mem_map.mp hn
        exact Int.ofNat_inj.mp (Prod.mk.inj he).1 ▸ hm
    · intro hn
      exact Or.inr ⟨[], List.mem_map.mpr ⟨n, hn, rfl⟩⟩
  have hperm := (List.perm_ext_iff_of_nodup hsound.distinct List.nodup_range).mpr hmem
  rw [← length_numbers, hperm.length_eq, List.length_range]

/-- Whatever calls built it, an allowlist is sound, has at most 2044 rules and serves every next
    call; and there are calls that bring it to this bound. -/
theorem sound_and_serves (a : Arch) :
    (∀ calls : List (Int × Bytes), ((empty a).addAll calls).Sound ∧
      ((empty a).addAll calls).size ≤ 2044 ∧
      ∀ (number : Int) (name : Bytes), ((empty a).addAll calls).Serves number name) ∧
    ∃ calls, ((empty a).addAll calls).size = 2044 := by
  refine ⟨?_, callsBelow 2044, size_addAll_callsBelow a (Nat.le_refl maxRules)⟩
  intro calls
  have hsound := (sound_empty a).addAll calls
  exact ⟨hsound, hsound.bounded, hsound.serves⟩

end SyscallFilter.Allowlist
