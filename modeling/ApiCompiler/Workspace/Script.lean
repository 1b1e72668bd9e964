import ApiCompiler.Workspace.Program

/-!
# Scripts

A script is a list of simple commands, each tied to the one before it: it runs in any case, only
after success, or only after failure.  Words may be quoted, and what a command prints may go to a
file.  Variables are not set, so they stand for nothing.

`Script.tokens?` cuts a text into words and operators, `Script.ofTokens?` groups them, and
`Script.run` runs the commands in order until there are no more or one of them is `exit`.
-/

namespace ApiCompiler
namespace Workspace

/-- Where the output of a command goes. -/
inductive Redirection where
  | replace (target : String)
  | append (target : String)
  | input (source : String)
  /-- Of messages rather than output. -/
  | aside (target : String)

/-- What ties a command to the one before it. -/
inductive Link where
  | always
  | afterSuccess
  | afterFailure

/-- A command: its words and redirections. -/
structure Script.Step where
  link : Link
  words : List String
  redirections : List Redirection

namespace Script

/-! ## Tokens -/

/-- An operator of a script. -/
inductive Operator where
  | next
  | and
  | or
  | replace
  | append
  | input
  | aside
  deriving DecidableEq

/-- A word or an operator. -/
inductive Token where
  | word (text : String)
  | operator (op : Operator)

/-- The operator that a text starts with, and what follows it. -/
def operator? : List Char → Option (Operator × List Char)
  | '&' :: '&' :: cs => some (.and, cs)
  | '|' :: '|' :: cs => some (.or, cs)
  | '2' :: '>' :: cs => some (.aside, cs)
  | '1' :: '>' :: cs => some (.replace, cs)
  | '>' :: '>' :: cs => some (.append, cs)
  | '>' :: cs => some (.replace, cs)
  | '<' :: cs => some (.input, cs)
  | ';' :: cs => some (.next, cs)
  | '\n' :: cs => some (.next, cs)
  | _ => none

/-- Whether a character ends a word. -/
def endsWord (c : Char) : Bool :=
  [' ', '\t', '\n', ';', '&', '|', '<', '>', '(', ')'].contains c

/-- Whether a character may stand in the name of a variable. -/
def isNameChar (c : Char) : Bool := c.isAlphanum || c = '_'

/-- The characters after the name of a variable. -/
def afterVariable : List Char → List Char
  | '\x7b' :: cs => (cs.dropWhile (· ≠ '\x7d')).drop 1
  | c :: cs => if isNameChar c then (c :: cs).dropWhile isNameChar else cs
  | [] => []

/-- The characters between double quotes, and what follows them. -/
def quoted? : Nat → List Char → Option (List Char × List Char)
  | 0, _ => none
  | bound + 1, cs =>
    match cs with
    | [] => none
    | '"' :: rest => some ([], rest)
    | '\\' :: c :: rest =>
      (quoted? bound rest).map fun r =>
        (if ['"', '\\', '$'].contains c then (c :: r.1, r.2) else ('\\' :: c :: r.1, r.2))
    | '$' :: rest => quoted? bound (afterVariable rest)
    | c :: rest => (quoted? bound rest).map fun r => (c :: r.1, r.2)

/-- The characters of a word, and what follows it. -/
def word? : Nat → List Char → Option (List Char × List Char)
  | 0, _ => none
  | bound + 1, cs =>
    match cs with
    | [] => some ([], [])
    | '\'' :: rest =>
      let content := rest.takeWhile (· ≠ '\'')
      match rest.drop content.length with
      | [] => none
      | _ :: after => (word? bound after).map fun r => (content ++ r.1, r.2)
    | '"' :: rest => do
      let (content, after) ← quoted? bound rest
      let (more, after) ← word? bound after
      pure (content ++ more, after)
    | '\\' :: c :: rest => (word? bound rest).map fun r => (c :: r.1, r.2)
    | '$' :: rest => word? bound (afterVariable rest)
    | c :: rest =>
      if endsWord c then some ([], cs)
      else (word? bound rest).map fun r => (c :: r.1, r.2)

/-- The tokens of a text, unless a quote is left open. -/
def tokensFrom : Nat → List Char → Option (List Token)
  | 0, _ => none
  | bound + 1, cs =>
    match cs with
    | [] => some []
    | c :: rest =>
      if c = ' ' || c = '\t' then tokensFrom bound rest
      else if c = '#' then tokensFrom bound (rest.dropWhile (· ≠ '\n'))
      else
        match operator? cs with
        | some (op, rest) => (tokensFrom bound rest).map (.operator op :: ·)
        | none =>
          if endsWord c then none
          else do
            let (text, rest) ← word? (cs.length + 1) cs
            let more ← tokensFrom bound rest
            pure (.word (String.ofList text) :: more)

/-- The tokens of a text. -/
def tokens? (text : String) : Option (List Token) := tokensFrom (text.length + 1) text.toList

/-! ## Steps -/

/-- A step without words. -/
def Step.blank (link : Link) : Step := ⟨link, [], []⟩

/-- Whether a step does nothing. -/
def Step.isBlank (s : Step) : Bool := s.words.isEmpty && s.redirections.isEmpty

/-- Groups tokens into steps; `step` is the step that is being read. -/
def steps? (step : Step) : List Token → Option (List Step)
  | [] => some (if step.isBlank then [] else [step])
  | .word text :: rest => steps? { step with words := step.words ++ [text] } rest
  | .operator .next :: rest =>
    (steps? (.blank .always) rest).map fun ss => if step.isBlank then ss else step :: ss
  | .operator .and :: rest =>
    if step.isBlank then none else (steps? (.blank .afterSuccess) rest).map (step :: ·)
  | .operator .or :: rest =>
    if step.isBlank then none else (steps? (.blank .afterFailure) rest).map (step :: ·)
  | .operator .replace :: .word target :: rest =>
    steps? { step with redirections := step.redirections ++ [.replace target] } rest
  | .operator .append :: .word target :: rest =>
    steps? { step with redirections := step.redirections ++ [.append target] } rest
  | .operator .input :: .word source :: rest =>
    steps? { step with redirections := step.redirections ++ [.input source] } rest
  | .operator .aside :: .word target :: rest =>
    steps? { step with redirections := step.redirections ++ [.aside target] } rest
  | .operator _ :: _ => none

/-- The steps of a text, unless it is no script. -/
def ofString? (text : String) : Option (List Step) :=
  (tokens? text).bind (steps? (.blank .always))

/-! ## Running -/

/-- Opens the files of redirections; a file that is written to is emptied or made. -/
def openFiles (directory : Path) : List Redirection → StateM Workspace Bool
  | [] => pure true
  | r :: rest => do
    let located (name : String) : Path := directory.join (.ofString name)
    let w ← get
    let ok ← match r with
      | .replace name =>
        if name = "/dev/null" then pure true else Program.attempt fun w => w.write (located name) ""
      | .append name =>
        if name = "/dev/null" || w.isFile (located name) then pure true
        else Program.attempt fun w => w.write (located name) ""
      | .input name => pure (name = "/dev/null" || w.isFile (located name))
      | .aside name =>
        if name = "/dev/null" || name.startsWith "&" then pure true
        else Program.attempt fun w => w.write (located name) ""
    if ok then openFiles directory rest else pure false

/-- The file that output goes to, if it goes to one. -/
def outputFile (rs : List Redirection) : Option String :=
  rs.reverse.findSome? fun r =>
    match r with
    | .replace name => some name
    | .append name => some name
    | _ => none

/-- Adds output to a file. -/
def addOutput (p : Path) (output : String) : StateM Workspace Unit := do
  let w ← get
  match w.find p with
  | .ok (.file text) =>
    match w.write p (text ++ output) with
    | .ok v => set v
    | .error _ => pure ()
  | _ => pure ()

/-- How far a script has come. -/
structure Progress where
  directory : Path
  status : Nat
  output : String
  ended : Bool

/-- Runs the words of a step; `start` starts programs. -/
def runWords (start : List String → Path → StateM Workspace Outcome) (p : Progress) :
    List String → StateM Workspace (Progress × String)
  | [] => pure ({ p with status := 0 }, "")
  | "exit" :: args =>
    match args with
    | [] => pure ({ p with ended := true }, "")
    | n :: _ => pure ({ p with ended := true, status := (n.toNat?.map (· % 256)).getD 2 }, "")
  | "cd" :: args => do
    let target := p.directory.join (.ofString (args.headD "/"))
    if (← get).isDirectory target then
      pure ({ p with directory := target, status := 0 }, "")
    else pure ({ p with status := 2 }, "")
  | ":" :: _ => pure ({ p with status := 0 }, "")
  | words => do
    let o ← start words p.directory
    pure ({ p with status := o.status }, o.output)

/-- Runs a step. -/
def runStep (start : List String → Path → StateM Workspace Outcome) (s : Step) (p : Progress) :
    StateM Workspace Progress := do
  let due := match s.link with
    | .always => true
    | .afterSuccess => p.status = 0
    | .afterFailure => p.status ≠ 0
  if p.ended || !due then pure p
  else if ← openFiles p.directory s.redirections then
    let (after, output) ← runWords start p s.words
    match outputFile s.redirections with
    | some name =>
      if name ≠ "/dev/null" then
        addOutput (p.directory.join (.ofString name)) output
      pure after
    | none => pure { after with output := after.output ++ output }
  else pure { p with status := 2 }

/-- Runs steps in order. -/
def runSteps (start : List String → Path → StateM Workspace Outcome) :
    List Step → Progress → StateM Workspace Progress
  | [], p => pure p
  | s :: ss, p => do
    let p ← runStep start s p
    runSteps start ss p

/-- Runs the text of a script in a directory. -/
def run (start : List String → Path → StateM Workspace Outcome) (text : String)
    (directory : Path) : StateM Workspace Outcome := do
  match ofString? text with
  | none => pure ⟨2, ""⟩
  | some steps =>
    let p ← runSteps start steps ⟨directory, 0, "", false⟩
    pure ⟨p.status, p.output⟩

end Script

/-! ## Commands -/

/-- The program that a command names, by its name alone or by its path. -/
def program? (name : String) : Option Program :=
  let p := Path.ofString name
  if !p.isAbsolute && !name.toList.contains '/' then lookup? name Program.all
  else if p.names.dropLast = ["bin"] || p.names.dropLast = ["usr", "bin"] then
    p.names.getLast?.bind fun last => lookup? last Program.all
  else none

/-- Whether a command names the interpreter of scripts. -/
def isInterpreter (name : String) : Bool :=
  ["sh", "/bin/sh", "/usr/bin/sh", "bash", "/bin/bash", "/usr/bin/bash", "dash"].contains name

/-- Runs a command inside a script, nested at most as deep as the bound says. -/
def runNested : Nat → List String → Path → StateM Workspace Outcome
  | _, [], _ => pure .done
  | 0, _, _ => pure ⟨2, ""⟩
  | bound + 1, name :: args, directory =>
    match program? name with
    | some program => program args directory
    | none =>
      if isInterpreter name then
        match args with
        | "-c" :: script :: _ => Script.run (runNested bound) script directory
        | [] => pure .done
        | file :: _ => fun w =>
          match w.read (directory.join (.ofString file)) with
          | .ok script => Script.run (runNested bound) script directory w
          | .error _ => (⟨2, ""⟩, w)
      else pure ⟨127, ""⟩

/-- Runs a command in a directory.  A command that is not known cannot be started. -/
def run (words : List String) (directory : Path) : StateM Workspace CommandResult := do
  match words with
  | [] => pure (.ended 0 "")
  | name :: _ =>
    let w ← get
    if !w.isDirectory directory then pure (.notStarted ⟨.missing, directory.text⟩)
    else if name.isEmpty then pure (.notStarted ⟨.denied, name⟩)
    else if (program? name).isSome || isInterpreter name then
      let o ← runNested 16 words directory
      pure (.ended (Int.ofNat o.status) o.output)
    else if name.toList.contains '/' then
      match w.find (directory.join (.ofString name)) with
      | .ok _ => pure (.notStarted ⟨.denied, name⟩)
      | .error f => pure (.notStarted ⟨f, name⟩)
    else pure (.notStarted ⟨.missing, name⟩)

/-- The tree as the surroundings of a run.  Documents are fetched by `fetch`. -/
def host (directory : Path) (fetch : String → Except String Reply) : Host Workspace where
  directory
  read p w := (w.read p).mapError fun f => ⟨f, p.text⟩
  fetch address _ := fetch address
  makeDirectories
  write p text w :=
    match w.write p text with
    | .ok v => (.ok (), v)
    | .error f => (.error ⟨f, p.text⟩, w)
  run

end Workspace
end ApiCompiler
