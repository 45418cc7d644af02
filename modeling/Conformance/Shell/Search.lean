import Conformance.Shell.Expression
import Conformance.Shell.Lines

/-!
# Searches

A search writes the lines in which an expression stands for a part.
-/

namespace Conformance.Shell

/-- The expression that stands for what one of several patterns stands for. -/
def searchExpression (o : Setting.Options) (patterns : List Octets) : Except String Expression := do
  let st : Expression.Style := ⟨o.has 'E', o.has 'i'⟩
  let read (p : Octets) : Except String Expression := do
    let e ← if o.has 'F' then .ok (Expression.literal st p)
      else (Expression.read st p).map (·.1)
    return if o.has 'x' then .both .lineStart (.both e .lineEnd)
      else if o.has 'w' then .both .wordStart (.both e .wordEnd)
      else e
  match ← (patterns.flatMap patternLines).mapM read with
  | [] => return .empty
  | e :: es => return es.foldl .either e
where
  /-- The lines of a pattern, at least one. -/
  patternLines (p : Octets) : List Octets := if p.isEmpty then [[]] else bareLines p

/-- The words that stand for letters. -/
def searchWords : List (String × Char) :=
  [("quiet", 'q'), ("silent", 'q'), ("ignore-case", 'i'), ("invert-match", 'v'), ("count", 'c'),
    ("line-number", 'n'), ("only-matching", 'o'), ("fixed-strings", 'F'), ("extended-regexp", 'E'),
    ("files-with-matches", 'l'), ("files-without-match", 'L'), ("no-filename", 'h'),
    ("with-filename", 'H'), ("word-regexp", 'w'), ("line-regexp", 'x'), ("no-messages", 's')]

/-- Writes the lines in which an expression stands for a part. -/
def searchUtility (s : Setting) : Effect :=
  let usage := "Usage: grep [OPTION]... PATTERNS [FILE]...\nTry 'grep --help' for more information."
  let letters := "EFGPivwxclLnHhoqsabryz".toList
  match Setting.Options.ofArgs searchWords letters "emABC".toList s.args with
  | .error f => (s.ends 0).complain 2 (s.complaint f.message ++ "\n" ++ usage)
  | .ok o =>
    let named := (o.values.filter (·.1 = 'e')).map (·.2)
    let (patterns, paths) := match named, o.operands with
      | [], p :: paths => ([p], paths)
      | patterns, paths => (patterns, paths)
    if patterns.isEmpty then (s.ends 0).complain 2 usage
    else
      match searchExpression o patterns with
      | .error reason => s.fails 2 reason
      | .ok e =>
        let has (c : Char) : Bool := o.has c
        let bound := (o.value? 'm').bind count?
        let (sources, read) := s.sourcesWith 2 (fun path f => path ++ ": " ++ reasonOf f) paths
        let read := if has 's' then { read with err := [] } else read
        let isNamed := (1 < paths.length || has 'H') && !has 'h'
        let searched : List (Octets × Bool) := sources.map fun (path, content) =>
          let name := if path = ['-'] then "(standard input)".toList else path
          let found :=
            (bareLines content).zipIdx.filter fun (l : Octets × Nat) => e.occursIn l.1 != has 'v'
          let found := match bound with
            | some n => found.take n
            | none => found
          let front := if isNamed then name ++ [':'] else []
          let out :=
            if has 'q' then []
            else if has 'l' then if found.isEmpty then [] else name ++ ['\n']
            else if has 'L' then if found.isEmpty then name ++ ['\n'] else []
            else if has 'c' then front ++ Octets.ofInt found.length ++ ['\n']
            else found.flatMap fun (l, i) =>
              let front := front ++ (if has 'n' then Octets.ofInt (i + 1) ++ [':'] else [])
              let shown := if has 'o' then (e.parts l).filter (!·.isEmpty) else [l]
              shown.flatMap fun part => front ++ part ++ ['\n']
          (out, !found.isEmpty)
        let isFound := searched.any (·.2)
        { read with
          out := searched.flatMap (·.1)
          status := if has 'q' && isFound then 0
            else if read.status ≠ 0 then 2
            else if isFound then 0 else 1 }

end Conformance.Shell
