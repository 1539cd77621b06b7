import Mathlib.Data.Finset.Card
import SyscallFilter.Proofs.Compilation

/-! The accounts of a compilation. Every line of a policy counts as one of five things, and what it
    counts as depends only on the lines before it:

        blank        the line is empty
        comment      it starts with the mark of a comment
        unresolved   the resolver fails on its name or gives a negative number
        duplicate    a line before it asks for a call with the same number
        rule         it is the first line that asks for a call with its number

    While there is room, taking in a line books it as what it counts as, so that the rules, the
    unresolved lines and all counts of a compilation can be read off its lines. There is room for
    2044 different numbers; duplicates take none of it, and the line that brings one number more
    ends the compilation. A fault of the source ends it only behind the last line that was
    delivered. -/

namespace SyscallFilter

open Policy

/-! ### What lines count as -/

/-- The numbers of the calls that lines ask for. -/
def numbersOf (resolver : Resolver) (contents : List Content) : Finset Int :=
  ((requests resolver contents).map (·.1)).toFinset

/-- What a line counts as. -/
inductive Policy.LineClass where
  | blank
  | comment
  | rule
  | duplicate
  | unresolved
  deriving DecidableEq

/-- What a line counts as, behind lines with the contents `before`. -/
def Policy.Content.classAfter (resolver : Resolver) (before : List Content) : Content → LineClass
  | .blank => .blank
  | .comment => .comment
  | .syscall name =>
    if (resolver name).isUnresolved then .unresolved
    else if (resolver name).number ∈ numbersOf resolver before then .duplicate
    else .rule

/-- The lines that count as a class, in order, behind lines with the contents `before`. -/
def linesOf (resolver : Resolver) (k : LineClass) (before : List Content) : List Line → List Line
  | [] => []
  | line :: rest =>
    (if line.content.classAfter resolver before = k then [line] else []) ++
      linesOf resolver k (before ++ [line.content]) rest

/-- The rule that a line makes. -/
def ruleOf (resolver : Resolver) (line : Line) : Rule :=
  ⟨(resolver line.content.name).number.toNat, line.content.name, .allow⟩

/-- How many lines there are, and how many of each class. -/
def tally (resolver : Resolver) (lines : List Line) : Stats where
  lines := lines.length
  blank := (linesOf resolver .blank [] lines).length
  comments := (linesOf resolver .comment [] lines).length
  rules := (linesOf resolver .rule [] lines).length
  duplicates := (linesOf resolver .duplicate [] lines).length
  unresolved := (linesOf resolver .unresolved [] lines).length

/-- The accounts with one more line of a class. -/
def Stats.book (s : Stats) : LineClass → Stats
  | .blank => { s with lines := s.lines + 1, blank := s.blank + 1 }
  | .comment => { s with lines := s.lines + 1, comments := s.comments + 1 }
  | .rule => { s with lines := s.lines + 1, rules := s.rules + 1 }
  | .duplicate => { s with lines := s.lines + 1, duplicates := s.duplicates + 1 }
  | .unresolved => { s with lines := s.lines + 1, unresolved := s.unresolved + 1 }

variable {resolver : Resolver}

theorem numbersOf_append (contents more : List Content) :
    numbersOf resolver (contents ++ more) =
      numbersOf resolver contents ∪ numbersOf resolver more := by
  simp only [numbersOf, requests, List.filterMap_append, List.map_append, List.toFinset_append]

/-- A line asks for the number of its name, unless the name is unresolved. -/
theorem numbersOf_syscall (name : Bytes) : numbersOf resolver [.syscall name] =
    if (resolver name).isUnresolved then ∅ else {(resolver name).number} := by
  cases hu : (resolver name).isUnresolved <;> simp [numbersOf, requests, Content.request?, hu]

theorem linesOf_append (k : LineClass) (before : List Content) (lines more : List Line) :
    linesOf resolver k before (lines ++ more) = linesOf resolver k before lines ++
      linesOf resolver k (before ++ lines.map (·.content)) more := by
  induction lines generalizing before with
  | nil => simp [linesOf]
  | cons line lines ih => simp [linesOf, ih]

theorem linesOf_concat (k : LineClass) (done : List Line) (line : Line) :
    linesOf resolver k [] (done ++ [line]) = linesOf resolver k [] done ++
      if line.content.classAfter resolver (done.map (·.content)) = k then [line] else [] := by
  rw [linesOf_append, List.nil_append, linesOf, linesOf, List.append_nil]

theorem tally_concat (done : List Line) (line : Line) :
    tally resolver (done ++ [line]) =
      (tally resolver done).book (line.content.classAfter resolver (done.map (·.content))) := by
  simp only [tally, linesOf_concat, List.length_append, List.length_singleton]
  cases line.content.classAfter resolver (done.map (·.content)) <;> rfl

/-- Every line is counted once. -/
theorem tally_lines (lines : List Line) : (tally resolver lines).lines =
    (tally resolver lines).blank + (tally resolver lines).comments + (tally resolver lines).rules +
      (tally resolver lines).duplicates + (tally resolver lines).unresolved := by
  induction lines using List.reverseRecOn with
  | nil => rfl
  | append_singleton done line ih =>
    rw [tally_concat]
    cases line.content.classAfter resolver (done.map (·.content)) <;>
      simp only [Stats.book, ih] <;> omega

/-- A line that makes no rule brings no new number. -/
theorem numbersOf_subset {before : List Content} {content : Content}
    (h : content.classAfter resolver before ≠ .rule) :
    numbersOf resolver [content] ⊆ numbersOf resolver before := by
  cases content with
  | blank => exact Finset.empty_subset _
  | comment => exact Finset.empty_subset _
  | syscall name =>
    rw [numbersOf_syscall]
    split
    · exact Finset.empty_subset _
    · next hu =>
      rw [Finset.singleton_subset_iff]
      by_contra hnew
      exact h (by simp [Content.classAfter, hu, hnew])

/-- A line that makes a rule brings one number more. -/
theorem card_numbersOf_concat {before : List Content} {content : Content}
    (h : content.classAfter resolver before = .rule) :
    (numbersOf resolver (before ++ [content])).card = (numbersOf resolver before).card + 1 := by
  cases content with
  | blank => simp [Content.classAfter] at h
  | comment => simp [Content.classAfter] at h
  | syscall name =>
    by_cases hu : (resolver name).isUnresolved = true
    · simp [Content.classAfter, hu] at h
    · by_cases hmem : (resolver name).number ∈ numbersOf resolver before
      · simp [Content.classAfter, hu, hmem] at h
      · rw [numbersOf_append, numbersOf_syscall, if_neg hu, Finset.union_comm, ← Finset.insert_eq,
          Finset.card_insert_of_notMem hmem]

/-! ### Taking in lines -/

namespace Draft

/-- What holds of a draft that has taken in lines. -/
structure Accounts (resolver : Resolver) (done : List Line) (d : Draft) : Prop where
  sound : d.allowlist.Sound
  numbers : numbersOf resolver (done.map (·.content)) = (d.allowlist.numbers.map Int.ofNat).toFinset
  rules : d.allowlist.rules = (linesOf resolver .rule [] done).map (ruleOf resolver)
  unresolved : d.unresolved.reverse = linesOf resolver .unresolved [] done
  stats : d.stats = tally resolver done

theorem accounts_empty (resolver : Resolver) (target : Arch) :
    Accounts resolver [] { allowlist := .empty target } where
  sound := Allowlist.sound_empty target
  numbers := rfl
  rules := rfl
  unresolved := rfl
  stats := rfl

variable {done : List Line} {d : Draft} {line : Line}

theorem Accounts.mem_numbers (h : Accounts resolver done d) (n : Nat) :
    (n : Int) ∈ numbersOf resolver (done.map (·.content)) ↔ n ∈ d.allowlist.numbers := by
  rw [h.numbers, List.mem_toFinset, List.mem_map]
  constructor
  · rintro ⟨m, hm, he⟩
    exact Int.ofNat_inj.mp he ▸ hm
  · intro hn
    exact ⟨n, hn, rfl⟩

/-- There are as many rules as different numbers. -/
theorem Accounts.card_numbers (h : Accounts resolver done d) :
    (numbersOf resolver (done.map (·.content))).card = d.allowlist.size := by
  have hnodup : (d.allowlist.numbers.map Int.ofNat).Nodup :=
    h.sound.distinct.map fun _ _ => Int.ofNat_inj.mp
  rw [h.numbers, List.toFinset_card_of_nodup hnodup, List.length_map, Allowlist.length_numbers]

/-- A line that makes no rule leaves the rules as they are. -/
theorem Accounts.book {k : LineClass} {d' : Draft} (h : Accounts resolver done d)
    (hclass : line.content.classAfter resolver (done.map (·.content)) = k) (hk : k ≠ .rule)
    (hlist : d'.allowlist = d.allowlist)
    (hunresolved : d'.unresolved = (if k = .unresolved then [line] else []) ++ d.unresolved)
    (hstats : d'.stats = d.stats.book k) :
    Accounts resolver (done ++ [line]) d' where
  sound := hlist ▸ h.sound
  numbers := by
    rw [List.map_append, numbersOf_append, hlist, ← h.numbers]
    exact Finset.union_eq_left.mpr (numbersOf_subset (hclass.trans_ne hk))
  rules := by
    rw [hlist, h.rules, linesOf_concat, if_neg (hclass.trans_ne hk), List.append_nil]
  unresolved := by
    rw [hunresolved, List.reverse_append, h.unresolved, linesOf_concat, hclass]
    split <;> rfl
  stats := by rw [hstats, h.stats, tally_concat, hclass]

section Syscall

variable {name : Bytes} {n : Nat} (h : Accounts resolver done d)
  (hc : line.content = .syscall name) (hu : (resolver name).isUnresolved = false)
  (hn : (resolver name).number = n)
include h hc hu hn

/-- A line that asks for a call repeats an earlier one exactly when the number has a rule. -/
theorem Accounts.classAfter_syscall : line.content.classAfter resolver (done.map (·.content)) =
    if n ∈ d.allowlist.numbers then .duplicate else .rule := by
  simp only [hc, Content.classAfter, hu, hn, h.mem_numbers, Bool.false_eq_true, if_false]

theorem Accounts.addRule (hnew : n ∉ d.allowlist.numbers)
    (hsound : (d.allowlist.withRule n name).Sound) :
    Accounts resolver (done ++ [line])
      (d.addRule (d.allowlist.withRule n name) line name (resolver name).number) := by
  have hclass := (h.classAfter_syscall hc hu hn).trans (if_neg hnew)
  have hnumbers : numbersOf resolver [line.content] = {(n : Int)} := by
    simp [hc, numbersOf_syscall, hu, hn]
  have hrule : ruleOf resolver line = ⟨n, name, .allow⟩ := by
    simp [ruleOf, hc, Content.name, hn]
  refine ⟨hsound, ?_, ?_, ?_, ?_⟩
  · rw [List.map_append, numbersOf_append, h.numbers, List.map_singleton, hnumbers, Draft.addRule,
      Allowlist.numbers_withRule, List.map_append, List.toFinset_append]
    rfl
  · rw [linesOf_concat, if_pos hclass, List.map_append, ← h.rules, List.map_singleton, hrule]
    rfl
  · rw [linesOf_concat, if_neg (by simp [hclass]), List.append_nil, ← h.unresolved]
    rfl
  · rw [tally_concat, hclass, ← h.stats]
    rfl

end Syscall

/-- A line is taken in and booked as what it counts as, unless it makes a rule and there is no room
    for it. -/
theorem Accounts.add_cases (h : Accounts resolver done d) (line : Line) :
    (∃ d', d.add resolver line = .ok d' ∧ Accounts resolver (done ++ [line]) d') ∨
    (∃ name, line.content = .syscall name ∧
      line.content.classAfter resolver (done.map (·.content)) = .rule ∧
      d.allowlist.size = Allowlist.maxRules ∧
      d.add resolver line = .error (.rule line.number name (.full name))) := by
  cases hc : line.content with
  | blank =>
    have hadd : d.add resolver line = .ok d.addBlank := by rw [add, hc]
    exact Or.inl ⟨_, hadd, h.book (k := .blank) (by rw [hc]; rfl) (by simp) rfl rfl rfl⟩
  | comment =>
    have hadd : d.add resolver line = .ok d.addComment := by rw [add, hc]
    exact Or.inl ⟨_, hadd, h.book (k := .comment) (by rw [hc]; rfl) (by simp) rfl rfl rfl⟩
  | syscall name =>
    have hadd : d.add resolver line = d.addSyscall resolver line name := by rw [add, hc]
    rw [← hc, hadd]
    cases hu : (resolver name).isUnresolved with
    | true =>
      refine Or.inl ⟨d.addUnresolved line name, by simp [addSyscall, hu],
        h.book (k := .unresolved) ?_ (by simp) rfl rfl rfl⟩
      simp [hc, Content.classAfter, hu]
    | false =>
      rcases Allowlist.add_cases d.allowlist (resolver name).number name with
        ⟨hneg, -⟩ | ⟨n, hn, ⟨hs, ha⟩ | ⟨hs, hfull, ha⟩ | ⟨hs, hroom, ha⟩⟩
      · simp [Resolution.isUnresolved, hneg] at hu
      · have hold : n ∈ d.allowlist.numbers := (h.sound.seen n).mp hs
        have hclass := (h.classAfter_syscall hc hu hn).trans (if_pos hold)
        exact Or.inl ⟨d.addDuplicate d.allowlist line name, by simp [addSyscall, hu, ha],
          h.book hclass (by simp) rfl rfl rfl⟩
      · have hnew := h.sound.not_mem_numbers hs
        have hclass := (h.classAfter_syscall hc hu hn).trans (if_neg hnew)
        exact Or.inr ⟨name, hc, hclass, Nat.le_antisymm h.sound.bounded hfull,
          by simp [addSyscall, hu, ha]⟩
      · have hnew := h.sound.not_mem_numbers hs
        have hsound := h.sound.withRule hs hroom name
        exact Or.inl ⟨_, by simp [addSyscall, hu, ha], h.addRule hc hu hn hnew hsound⟩

/-- Lines are taken in up to the first that makes a rule for which there is no room. -/
theorem Accounts.addAll_cases (h : Accounts resolver done d) (lines : List Line) :
    (∃ d', addAll resolver d lines = (d', none) ∧ Accounts resolver (done ++ lines) d') ∨
    (∃ before line after name d', lines = before ++ line :: after ∧
      line.content = .syscall name ∧
      line.content.classAfter resolver ((done ++ before).map (·.content)) = .rule ∧
      (numbersOf resolver ((done ++ before).map (·.content))).card = Allowlist.maxRules ∧
      addAll resolver d lines = (d', some (.rule line.number name (.full name)))) := by
  induction lines generalizing done d with
  | nil => exact Or.inl ⟨d, rfl, by rwa [List.append_nil]⟩
  | cons line rest ih =>
    rcases h.add_cases line with ⟨d', hadd, h'⟩ | ⟨name, hc, hclass, hsize, hadd⟩
    · have hrun : addAll resolver d (line :: rest) = addAll resolver d' rest := by
        rw [addAll, hadd]
      have happend : ∀ more, done ++ [line] ++ more = done ++ line :: more := by simp
      rw [hrun]
      rcases ih h' with ⟨d'', hrest, h''⟩ | ⟨before, line', after, name, d'', rfl, hrest⟩
      · exact Or.inl ⟨d'', hrest, happend rest ▸ h''⟩
      · rw [happend] at hrest
        exact Or.inr ⟨line :: before, line', after, name, d'', rfl, hrest⟩
    · refine Or.inr ⟨[], line, rest, name, d, rfl, hc, ?_, ?_, ?_⟩
      · rwa [List.append_nil]
      · rw [List.append_nil, h.card_numbers, hsize]
      · rw [addAll, hadd]

end Draft

/-! ### Results -/

/-- What a result has to say about the lines of its policy. -/
structure Compilation.Accounts (resolver : Resolver) (lines : List Line) (c : Compilation) :
    Prop where
  rules : c.allowlist.rules = (linesOf resolver .rule [] lines).map (ruleOf resolver)
  unresolved : c.unresolved = linesOf resolver .unresolved [] lines
  stats : c.stats = { tally resolver lines with instructions := c.filter.length }

/-- How a compilation ends that comes upon lines and then upon `answer`. -/
def EndsFor (resolver : Resolver) (lines : List Line) (answer : ReadError)
    (outcome : Except CompileError Compilation) : Prop :=
  if (numbersOf resolver (lines.map (·.content))).card ≤ 2044 then
    match answer with
    | .endOfInput => ∃ c, outcome = .ok c ∧ c.Accounts resolver lines ∧
        c.stats.lines = c.stats.blank + c.stats.comments + c.stats.rules + c.stats.duplicates +
          c.stats.unresolved ∧
        c.stats.rules = c.allowlist.size ∧ c.stats.unresolved = c.unresolved.length
    | fault => outcome = .error (.read fault)
  else ∃ before line after name, lines = before ++ line :: after ∧
    line.content = .syscall name ∧
    (numbersOf resolver (before.map (·.content))).card = 2044 ∧
    (numbersOf resolver ((before ++ [line]).map (·.content))).card = 2045 ∧
    outcome = .error (.rule line.number name (.full name))

/-- A draft is emitted in the linear form and keeps its accounts. -/
theorem Draft.Accounts.finish {lines : List Line} {d : Draft} (h : d.Accounts resolver lines) :
    ∃ c, d.finish .linear = .ok c ∧ c.allowlist = d.allowlist ∧ c.Accounts resolver lines ∧
      ∀ call, c.filter.evaluate call = .ok (Emit.linearVerdict c.allowlist call) := by
  obtain ⟨f, hf, -, heval⟩ := Emit.emit_linear h.sound
  refine ⟨⟨d.allowlist, f, d.unresolved.reverse, { d.stats with instructions := f.length }⟩,
    ?_, rfl, ⟨h.rules, h.unresolved, by rw [h.stats]⟩, heval⟩
  rw [Draft.finish, hf]

section Endings

variable {source : Source} {lines : List Line} {answer : ReadError}
  (hread : readLines source = (lines, answer))
include hread

/-- With room for all numbers, all lines are taken in, and the answer behind them decides. -/
theorem compileFor_of_room
    (hroom : (numbersOf resolver (lines.map (·.content))).card ≤ Allowlist.maxRules)
    (target : Arch) (emitter : Emitter) :
    ∃ d : Draft, d.Accounts resolver lines ∧ d.allowlist.arch = target ∧
      (compileFor target emitter resolver source).outcome = match answer with
        | .endOfInput => d.finish emitter
        | fault => .error (.read fault) := by
  rcases (Draft.accounts_empty resolver target).addAll_cases lines with
    ⟨d, hrun, h⟩ | ⟨before, line, after, name, d, rfl, -, hclass, hcard, -⟩
  · refine ⟨d, h, ?_, ?_⟩
    · rw [Draft.allowlist_addAll hrun, Allowlist.arch_addAll]
      rfl
    · simp only [compileFor, hread, hrun]
      cases answer <;> rfl
  · have hmore := card_numbersOf_concat hclass
    have hall : (before ++ line :: after).map (·.content) =
        before.map (·.content) ++ [line.content] ++ after.map (·.content) := by simp
    rw [hall, numbersOf_append] at hroom
    have hle := (Finset.card_le_card Finset.subset_union_left).trans hroom
    rw [List.nil_append] at hmore hcard
    omega

/-- With more numbers than there is room for, the line that brings the first number too many ends
    the compilation, whatever the answer behind the last line is. -/
theorem compileFor_of_no_room
    (hfull : Allowlist.maxRules < (numbersOf resolver (lines.map (·.content))).card)
    (target : Arch) (emitter : Emitter) :
    ∃ before line after name, lines = before ++ line :: after ∧ line.content = .syscall name ∧
      (numbersOf resolver (before.map (·.content))).card = Allowlist.maxRules ∧
      (numbersOf resolver ((before ++ [line]).map (·.content))).card = Allowlist.maxRules + 1 ∧
      (compileFor target emitter resolver source).outcome =
        .error (.rule line.number name (.full name)) := by
  rcases (Draft.accounts_empty resolver target).addAll_cases lines with
    ⟨d, -, h⟩ | ⟨before, line, after, name, d, rfl, hc, hclass, hcard, hrun⟩
  · have hsize := h.card_numbers
    have hbound := h.sound.bounded
    rw [List.nil_append] at hsize
    omega
  · rw [List.nil_append] at hclass hcard
    refine ⟨before, line, after, name, rfl, hc, hcard, ?_, ?_⟩
    · rw [List.map_append, List.map_singleton, card_numbersOf_concat hclass, hcard]
    · simp only [compileFor, hread, hrun]

theorem compileFor_endsFor (target : Arch) :
    EndsFor resolver lines answer (compileFor target .linear resolver source).outcome := by
  unfold EndsFor
  split
  · next hroom =>
    obtain ⟨d, h, -, houtcome⟩ := compileFor_of_room hread hroom target .linear
    rw [houtcome]
    cases answer with
    | atLine k f => rfl
    | endOfInput =>
      obtain ⟨c, hc, -, haccounts, -⟩ := h.finish
      refine ⟨c, hc, haccounts, ?_, ?_, ?_⟩
      · rw [haccounts.stats]
        exact tally_lines lines
      · rw [haccounts.stats, Allowlist.size, haccounts.rules, List.length_map]
        rfl
      · rw [haccounts.stats, haccounts.unresolved]
        rfl
  · next hfull =>
    exact compileFor_of_no_room hread (Nat.lt_of_not_le hfull) target .linear

end Endings

/-- The rules, the unresolved lines and the counts of a compilation in the linear form are those of
    the lines of its text, or of the lines that a source delivers before its fault. A fault counts
    only when the numbers of these lines have room; else the line that brings the first number too
    many ends the compilation. -/
theorem compile_endsFor {config : Config} {target : Arch}
    (harch : Arch.lookup config.arch = .ok target)
    (hemitter : Emitter.ofName config.emitter = .ok .linear) :
    (∀ text : Bytes, EndsFor (config.resolver.getD target.resolve) (numbered 0 text.lines)
      .endOfInput (compile (.ofBytes text) config).outcome) ∧
    (∀ source : Source, EndsFor (config.resolver.getD target.resolve)
      (Policy.read 0 [] (source.events 0)).1 (Policy.read 0 [] (source.events 0)).2
      (compile source config).outcome) := by
  simp only [compile, harch, hemitter]
  constructor
  · intro text
    exact compileFor_endsFor (readLines_ofBytes text) target
  · intro source
    exact compileFor_endsFor (Reader.readLines_eq_read source) target

/-- Resolves a name to its length; on one name it fails, though it has a number for it. -/
def byLength : Resolver := fun name =>
  ⟨name.length, if name = utf8 "bogus" then some (utf8 "no such call") else none⟩

/-- A policy with a line of each class. -/
def mixedPolicy : Bytes := utf8 "read\n# the rest\n\nopen\nbogus"

theorem compile_endsFor_mixedPolicy :
    Arch.lookup [] = .ok (.ofPlatform Arch.host .x8664) ∧ Emitter.ofName [] = .ok .linear ∧
    ∃ c, (compile (.ofBytes mixedPolicy) { resolver := some byLength }).outcome = .ok c ∧
      c.allowlist.rules = [⟨4, utf8 "read", .allow⟩] ∧
      c.unresolved = [⟨5, utf8 "bogus", .syscall (utf8 "bogus")⟩] ∧
      c.stats = ⟨5, 1, 1, 1, 1, 1, c.filter.length⟩ := by
  have harch : Arch.lookup [] = .ok (.ofPlatform Arch.host .x8664) :=
    Arch.lookup_host (by decide +kernel)
  have hemitter : Emitter.ofName [] = .ok .linear := rfl
  have h := (@compile_endsFor { resolver := some byLength } _ harch hemitter).1 mixedPolicy
  rw [EndsFor, if_pos (by decide +kernel)] at h
  obtain ⟨c, hc, haccounts, -⟩ := h
  have htally : tally byLength (numbered 0 mixedPolicy.lines) = ⟨5, 1, 1, 1, 1, 1, 0⟩ := by
    decide +kernel
  refine ⟨harch, hemitter, c, hc, ?_, ?_, ?_⟩
  · rw [haccounts.rules]
    decide +kernel
  · rw [haccounts.unresolved]
    decide +kernel
  · rw [haccounts.stats, Option.getD_some, htally]

end SyscallFilter
