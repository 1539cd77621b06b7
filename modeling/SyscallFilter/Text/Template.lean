import SyscallFilter.Numeral
import SyscallFilter.Text.Utf8

/-! Templates filled with no values. A template is a byte string with directives, each a percent
    sign, flags, an optional argument index, width and precision, and a verb. With no values to put
    in, a directive is replaced by a note on what it lacks, and everything else stands for itself. A
    point that ends the template is a verb, since no precision can follow it.

        100%%        →  100%
        %-5d         →  %!d(MISSING)
        %[1]d        →  %!d(BADINDEX)
        %*d          →  %!(BADWIDTH)%!d(MISSING)
        100%         →  100%!(NOVERB) -/

namespace SyscallFilter.Text.Template

open SyscallFilter

/-- Whether a byte is a flag of a directive. -/
def isFlag (b : UInt8) : Bool :=
  b == Bytes.ascii '#' || b == Bytes.ascii '0' || b == Bytes.ascii '+' ||
  b == Bytes.ascii '-' || b == Bytes.ascii ' '

/-- The largest count to which another digit may still be added. -/
def largestCount : Nat := 1000000

/-- Reads a width or precision on from `acc`: the bytes behind it, and whether there was one. A
    count that grows too large swallows the rest of the template. -/
def readCount (acc : Nat) (present : Bool) : Bytes → Bytes × Bool
  | [] => ([], present)
  | b :: rest =>
    match Numeral.digit? b with
    | none => (b :: rest, present)
    | some d =>
      if acc > largestCount then ([], false) else readCount (10 * acc + d) true rest

/-- Whether the text between brackets is the number of an argument. -/
def isIndex (inside : Bytes) : Bool :=
  match readCount 0 false inside with
  | ([], true) => true
  | _ => false

/-- An argument index at the front of a template: what was read and what follows. -/
structure Index where
  /-- Whether a bracket was opened at all, which is always a fault, since there are no values. -/
  opened : Bool
  /-- Whether the brackets held a number. -/
  found : Bool
  rest : Bytes

/-- Reads an argument index, if one stands at the front. -/
def readIndex : Bytes → Index
  | [] => ⟨false, false, []⟩
  | b :: rest =>
    if b ≠ Bytes.ascii '[' then ⟨false, false, b :: rest⟩
    else if rest.tail = [] then ⟨true, false, rest⟩
    else match rest.dropWhile (· ≠ Bytes.ascii ']') with
      | [] => ⟨true, false, rest⟩
      | _ :: after => ⟨true, isIndex (rest.takeWhile (· ≠ Bytes.ascii ']')), after⟩

/-- The state between the parts of a directive. -/
structure Progress where
  /-- Notes written so far. -/
  notes : Bytes := []
  /-- Whether the argument indices make sense so far. -/
  good : Bool := true
  /-- Whether the part just read was an argument index. -/
  afterIndex : Bool := false
  rest : Bytes

/-- Reads an argument index. -/
def Progress.index (p : Progress) : Progress :=
  let i := readIndex p.rest
  { p with good := p.good && !i.opened, afterIndex := i.found, rest := i.rest }

/-- Reads a width: a star asks for a value that is not there. -/
def Progress.width (p : Progress) : Progress :=
  if p.rest.head? = some (Bytes.ascii '*') then
    { p with notes := p.notes ++ utf8 "%!(BADWIDTH)", afterIndex := false, rest := p.rest.tail }
  else
    let (rest, present) := readCount 0 false p.rest
    { p with good := p.good && !(p.afterIndex && present), rest }

/-- Reads a precision behind a point, if there is one. A point with nothing behind it is left. -/
def Progress.precision (p : Progress) : Progress :=
  if p.rest.head? ≠ some (Bytes.ascii '.') ∨ p.rest.tail = [] then p
  else
    let p := { p with good := p.good && !p.afterIndex, rest := p.rest.tail }.index
    if p.rest.head? = some (Bytes.ascii '*') then
      { p with notes := p.notes ++ utf8 "%!(BADPREC)", afterIndex := false, rest := p.rest.tail }
    else { p with rest := (readCount 0 false p.rest).1 }

/-- The note on a verb that lacks a value. -/
def verbNote (c : Char) (good : Bool) : Bytes :=
  if c = '%' then utf8 "%"
  else utf8 "%!" ++ utf8Char c ++ utf8 (if good then "(MISSING)" else "(BADINDEX)")

/-- What a directive becomes, given the bytes behind its percent sign, and what follows it. -/
def directive (s : Bytes) : Bytes × Bytes :=
  let p : Progress := { rest := s.dropWhile isFlag }
  let p := p.index.width.precision
  let p := if p.afterIndex then p else p.index
  match p.rest with
  | [] => (p.notes ++ utf8 "%!(NOVERB)", [])
  | b :: rest =>
    let (verb, more) := firstGlyph b rest
    (p.notes ++ verbNote verb.toChar p.good, rest.drop more)

/-! ### Directives make progress -/

theorem readCount_length_le (acc : Nat) (present : Bool) (s : Bytes) :
    (readCount acc present s).1.length ≤ s.length := by
  fun_induction readCount acc present s with
  | case1 => simp
  | case2 => simp
  | case3 => simp
  | case4 acc present b rest d hd hacc ih => exact Nat.le_succ_of_le ih

theorem readIndex_length_le (s : Bytes) : (readIndex s).rest.length ≤ s.length := by
  unfold readIndex
  split
  · simp
  · next b rest =>
    have hd := (List.dropWhile_suffix (l := rest) (· ≠ Bytes.ascii ']')).length_le
    split
    · simp
    · split
      · simp
      · split
        · simp
        · next h =>
          rw [h, List.length_cons] at hd
          simp only [List.length_cons]
          omega

theorem Progress.index_length_le (p : Progress) : p.index.rest.length ≤ p.rest.length :=
  readIndex_length_le p.rest

theorem Progress.width_length_le (p : Progress) : p.width.rest.length ≤ p.rest.length := by
  unfold Progress.width
  split
  · simp
  · exact readCount_length_le 0 false p.rest

theorem Progress.precision_length_le (p : Progress) :
    p.precision.rest.length ≤ p.rest.length := by
  unfold Progress.precision
  split
  · exact Nat.le_refl _
  · have hi := Progress.index_length_le
      { p with good := p.good && !p.afterIndex, rest := p.rest.tail }
    have hc := readCount_length_le 0 false
      ({ p with good := p.good && !p.afterIndex, rest := p.rest.tail } : Progress).index.rest
    simp only [List.length_tail] at hi
    dsimp only
    split <;> simp only [List.length_tail] <;> omega

theorem directive_length_le (s : Bytes) : (directive s).2.length ≤ s.length := by
  have h₀ := (List.dropWhile_suffix (l := s) isFlag).length_le
  have h₁ := Progress.index_length_le { rest := s.dropWhile isFlag }
  have h₂ := Progress.width_length_le (Progress.index { rest := s.dropWhile isFlag })
  have h₃ := Progress.precision_length_le
    (Progress.index { rest := s.dropWhile isFlag }).width
  have h₄ := Progress.index_length_le
    (Progress.index { rest := s.dropWhile isFlag }).width.precision
  unfold directive
  dsimp only at *
  split
  · simp
  · next b rest h =>
    have := congrArg List.length h
    split at this <;> simp only [List.length_cons, List.length_drop] at * <;> omega

/-- Fills a template behind what is already written, whose last byte comes first. -/
def fillOnto (done : Bytes) : Bytes → Bytes
  | [] => done.reverse
  | b :: rest =>
    if b = Bytes.ascii '%' then
      match _h : directive rest with
      | (note, after) => fillOnto (note.reverse ++ done) after
    else fillOnto (b :: done) rest
termination_by s => s.length
decreasing_by
  · have := directive_length_le rest
    simp only [_h] at this
    simp only [List.length_cons]
    omega
  · simp

/-- Fills a template with no values. -/
def fill (template : Bytes) : Bytes := fillOnto [] template

end SyscallFilter.Text.Template
