import SyscallFilter.Text.Quoted

/-! The arguments of a command line: flags with a long name and perhaps a letter, and whatever else
    stands between them.

        --name=value   --name value   --switch        long flags
        -s=value   -svalue   -s value   -v            letters, several of them behind one dash
        --                                            no flags from here on

    Arguments are read from left to right, and the first mistake counts. -/

namespace SyscallFilter.Flags

open SyscallFilter

/-- What a flag takes. -/
inductive Kind where
  /-- Any text. -/
  | text
  /-- A truth value, which is true when none is written. -/
  | switch
  deriving DecidableEq

/-- A flag of a command. -/
structure Flag where
  name : Bytes
  letter : Option UInt8 := none
  kind : Kind := .text
  deriving DecidableEq

/-- A flag with the value that it was given. -/
structure Setting where
  name : Bytes
  value : Bytes
  deriving DecidableEq

/-- What is wrong with arguments. -/
inductive Mistake where
  | badSyntax (argument : Bytes)
  | unknownName (name : Bytes)
  | unknownLetter (letter : UInt8) (cluster : Bytes)
  | missingValue (argument : Bytes)
  | missingLetterValue (letter : UInt8) (cluster : Bytes)
  | notTruth (flag : Flag) (value : Bytes)
  deriving DecidableEq

/-- Why reading the arguments stopped. -/
inductive Stop where
  /-- Help was asked for. -/
  | help
  | mistake (cause : Mistake)
  deriving DecidableEq

/-- The character that stands for a byte behind a dash: the first byte of its UTF-8 form. -/
def letterChar (b : UInt8) : Char :=
  .ofNat ((utf8Char (.ofNat b.toNat)).headD 0).toNat

/-- A flag as messages name it. -/
def Flag.text (f : Flag) : Bytes :=
  match f.letter with
  | some b => utf8 "-" ++ [b] ++ utf8 ", --" ++ f.name
  | none => utf8 "--" ++ f.name

/-- The wording of a mistake. -/
def Mistake.message : Mistake → Bytes
  | .badSyntax argument => utf8 "bad flag syntax: " ++ argument
  | .unknownName name => utf8 "unknown flag: --" ++ name
  | .unknownLetter letter cluster =>
    utf8 "unknown shorthand flag: " ++ Text.quotedChar (letterChar letter) ++ utf8 " in -" ++
      cluster
  | .missingValue argument => utf8 "flag needs an argument: " ++ argument
  | .missingLetterValue letter cluster =>
    utf8 "flag needs an argument: " ++ Text.quotedChar (letterChar letter) ++ utf8 " in -" ++
      cluster
  | .notTruth flag value =>
    utf8 "invalid argument " ++ Text.quoted value ++ utf8 " for " ++ Text.quoted flag.text ++
      utf8 " flag: strconv.ParseBool: parsing " ++ Text.quoted value ++ utf8 ": invalid syntax"

/-! ### Values -/

/-- The written truth values. -/
def truth? (value : Bytes) : Option Bool :=
  if value ∈ ["1", "t", "T", "TRUE", "true", "True"].map utf8 then some true
  else if value ∈ ["0", "f", "F", "FALSE", "false", "False"].map utf8 then some false
  else none

/-- Gives a flag a value. -/
def Flag.set (f : Flag) (value : Bytes) : Except Stop Setting :=
  if f.kind = .switch ∧ truth? value = none then .error (.mistake (.notTruth f value))
  else .ok ⟨f.name, value⟩

/-- The value of a switch that has none written. -/
def switchedOn : Bytes := utf8 "true"

/-! ### Letters -/

/-- What the letters behind one dash come to. -/
structure Cluster where
  settings : List Setting := []
  /-- The flag whose value is the next argument. -/
  open? : Option (Flag × UInt8) := none

/-- The value of a flag written behind its letter, if there is one. -/
def attached? (f : Flag) (rest : Bytes) : Option Bytes :=
  match rest with
  | [] => none
  | b :: value =>
    if b = Bytes.ascii '=' ∧ value ≠ [] then some value
    else if f.kind = .switch then none
    else some rest

/-- Reads the letters behind one dash, after the settings of letters before, of which the last comes
    first. Letters that begin with `test.` are passed over. -/
def readCluster (flags : List Flag) (done : List Setting) : Bytes → Except Stop Cluster
  | [] => .ok { settings := done.reverse }
  | b :: rest =>
    if Bytes.startsWith (b :: rest) (utf8 "test.") then .ok { settings := done.reverse }
    else match flags.find? fun f => f.letter = some b with
      | none =>
        if b = Bytes.ascii 'h' then .error .help
        else .error (.mistake (.unknownLetter b (b :: rest)))
      | some f =>
        match attached? f rest with
        | some value => do
          let s ← f.set value
          return { settings := (s :: done).reverse }
        | none =>
          if f.kind = .switch then
            match f.set switchedOn with
            | .error stop => .error stop
            | .ok s => readCluster flags (s :: done) rest
          else .ok { settings := done.reverse, open? := some (f, b) }

/-! ### Long names -/

/-- A long flag, with the value written behind it or still to come. -/
inductive Long where
  | complete (setting : Setting)
  | open (flag : Flag)

/-- Reads a long flag, given what stands behind its two dashes. -/
def readLong (flags : List Flag) (argument body : Bytes) : Except Stop Long :=
  if body.head? = some (Bytes.ascii '-') ∨ body.head? = some (Bytes.ascii '=') then
    .error (.mistake (.badSyntax argument))
  else
    let name := body.takeWhile (· ≠ Bytes.ascii '=')
    match flags.find? fun f => f.name = name with
    | none =>
      if name = utf8 "help" then .error .help else .error (.mistake (.unknownName name))
    | some f =>
      match body.dropWhile (· ≠ Bytes.ascii '=') with
      | _ :: value => do
        let s ← f.set value
        return .complete s
      | [] =>
        if f.kind = .switch then do
          let s ← f.set switchedOn
          return .complete s
        else .ok (.open f)

/-! ### Command lines -/

/-- The arguments of a command, sorted out. -/
structure Parsed where
  settings : List Setting := []
  /-- The arguments that belong to no flag. -/
  arguments : List Bytes := []

/-- Puts settings in front. -/
def Parsed.withSettings (p : Parsed) (settings : List Setting) : Parsed :=
  { p with settings := settings ++ p.settings }

/-- Puts an argument in front. -/
def Parsed.withArgument (p : Parsed) (argument : Bytes) : Parsed :=
  { p with arguments := argument :: p.arguments }

/-- The byte that flags begin with. -/
def dash : UInt8 := 45

/-- The forms of an argument. -/
inductive Form where
  | plain
  | endOfFlags
  | long (body : Bytes)
  | letters (cluster : Bytes)
  deriving DecidableEq

/-- The form of an argument. One dash alone is no flag. -/
def formOf : Bytes → Form
  | a :: b :: rest =>
    if a ≠ dash then .plain
    else if b ≠ dash then .letters (b :: rest)
    else if rest = [] then .endOfFlags
    else .long rest
  | _ => .plain

/-- Sorts out the arguments of a command. -/
def parse (flags : List Flag) : List Bytes → Except Stop Parsed
  | [] => .ok {}
  | argument :: rest =>
    match formOf argument with
    | .plain => (parse flags rest).map (·.withArgument argument)
    | .endOfFlags => .ok { arguments := rest }
    | .long body =>
      match readLong flags argument body with
      | .error stop => .error stop
      | .ok (.complete s) => (parse flags rest).map (·.withSettings [s])
      | .ok (.open f) =>
        match rest with
        | [] => .error (.mistake (.missingValue argument))
        | value :: rest =>
          match f.set value with
          | .error stop => .error stop
          | .ok s => (parse flags rest).map (·.withSettings [s])
    | .letters cluster =>
      match readCluster flags [] cluster with
      | .error stop => .error stop
      | .ok ⟨settings, none⟩ => (parse flags rest).map (·.withSettings settings)
      | .ok ⟨settings, some (f, letter)⟩ =>
        match rest with
        | [] => .error (.mistake (.missingLetterValue letter [letter]))
        | value :: rest =>
          match f.set value with
          | .error stop => .error stop
          | .ok s => (parse flags rest).map (·.withSettings (settings ++ [s]))

/-- All values given to a flag, in order. -/
def Parsed.values (p : Parsed) (name : Bytes) : List Bytes :=
  (p.settings.filter fun s => s.name = name).map (·.value)

/-- The last value given to a flag. -/
def Parsed.value? (p : Parsed) (name : Bytes) : Option Bytes := (p.values name).getLast?

/-- Whether a switch is on. -/
def Parsed.isOn (p : Parsed) (name : Bytes) : Bool :=
  ((p.value? name).bind truth?).getD false

end SyscallFilter.Flags
