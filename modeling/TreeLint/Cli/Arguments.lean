/-!
# Arguments of a command line

The words of a command line are options and operands. An option has a long name after two dashes,
and some have a short one of a single letter after one dash; short options may share a word. The
value of an option stands in the same word, with or without an equals sign after a short name, or is
the next word. After two dashes on their own all words are operands.
-/

namespace TreeLint.Cli

/-- An option. -/
inductive Switch where
  | verbose
  | config
  | format
  | rules
  | exclude
  | force
  | help
  | version
  deriving DecidableEq, Repr

namespace Switch

/-- The long name of an option. -/
def long : Switch → String
  | .verbose => "verbose"
  | .config => "config"
  | .format => "format"
  | .rules => "rules"
  | .exclude => "exclude"
  | .force => "force"
  | .help => "help"
  | .version => "version"

/-- The short name of an option, if it has one. -/
def short? : Switch → Option Char
  | .verbose => some 'v'
  | .config => some 'c'
  | .format => some 'f'
  | .rules => none
  | .exclude => some 'e'
  | .force => none
  | .help => some 'h'
  | .version => some 'V'

/-- Whether an option has a value. -/
def takesValue : Switch → Bool
  | .config | .format | .rules | .exclude => true
  | .verbose | .force | .help | .version => false

end Switch

/-- A part of a command line. -/
inductive Argument where
  /-- An option with its value. The value is empty if the option has none. -/
  | option (switch : Switch) (value : String)
  /-- An operand, and the words that follow it. -/
  | operand (word : String) (after : List String)
  | divider
  | mistake
  deriving DecidableEq, Repr

/-- What a word says: the options in it, and the option that still wants its value. -/
structure Reading where
  arguments : List Argument
  wants : Option Switch

namespace Argument

/-- The short options of a word, where the text is what follows the dash. -/
def readShort (known : List Switch) : List Char → Reading
  | [] => ⟨[], none⟩
  | c :: rest =>
    match known.find? fun switch => switch.short? == some c with
    | none => ⟨[.mistake], none⟩
    | some switch =>
      if switch.takesValue then
        match rest with
        | [] => ⟨[], some switch⟩
        | '=' :: value => ⟨[.option switch (String.ofList value)], none⟩
        | value => ⟨[.option switch (String.ofList value)], none⟩
      else
        let more := readShort known rest
        ⟨.option switch "" :: more.arguments, more.wants⟩

/-- The long option of a word, where the text is what follows the dashes. -/
def readLong (known : List Switch) (text : List Char) : Reading :=
  let name := String.ofList (text.takeWhile (· ≠ '='))
  match known.find? fun switch => switch.long == name with
  | none => ⟨[.mistake], none⟩
  | some switch =>
    match text.dropWhile (· ≠ '='), switch.takesValue with
    | [], true => ⟨[], some switch⟩
    | [], false => ⟨[.option switch ""], none⟩
    | _ :: value, true => ⟨[.option switch (String.ofList value)], none⟩
    | _ :: _, false => ⟨[.mistake], none⟩

/-- Whether a word is no value: it starts with a dash, and is more than that. -/
def isDashed (word : String) : Bool :=
  match word.toList with
  | '-' :: _ :: _ => true
  | _ => false

/-- The arguments that words spell, where an option may want the first word as its value. -/
def read (known : List Switch) : (wants : Option Switch) → List String → List Argument
  | none, [] => []
  | some _, [] => [.mistake]
  | some switch, word :: rest =>
    if isDashed word then [.mistake] else .option switch word :: read known none rest
  | none, word :: rest =>
    match word.toList with
    | ['-', '-'] => .divider :: rest.map fun word => .operand word []
    | '-' :: '-' :: text =>
      let reading := readLong known text
      reading.arguments ++ read known reading.wants rest
    | '-' :: c :: text =>
      let reading := readShort known (c :: text)
      reading.arguments ++ read known reading.wants rest
    | _ => .operand word rest :: read known none rest

end Argument

end TreeLint.Cli
