import Conformance.Shell.Lines

/-!
# Batches of arguments

A program can be run for arguments that stand in a text: for all of them at once, for so many at a
time, or for each of them, put in place of a mark.
-/

namespace Conformance.Shell

/-- A word begun, from its end to its start, and the words in front of it, the latest first. -/
structure Gathered where
  words : List Octets := []
  begun : Option Octets := none

/-- Adds a character to the word that is begun. -/
def Gathered.add (g : Gathered) (c : Char) : Gathered :=
  { g with begun := some (c :: g.begun.getD []) }

/-- Ends the word that is begun. -/
def Gathered.close (g : Gathered) : Gathered :=
  match g.begun with
  | some w => ⟨w.reverse :: g.words, none⟩
  | none => g

/-- The words of a text between blanks, in which quotes and backslashes keep blanks; and what is
wrong with it. `blanks` are the characters that end words. -/
def quotedWords (blanks : Octets) : Nat → Gathered → Octets → List Octets × Option String
  | 0, g, _ | _, g, [] => (g.close.words.reverse, none)
  | _, g, ['\\'] => (g.close.words.reverse, none)
  | fuel + 1, g, '\\' :: c :: rest => quotedWords blanks fuel (g.add c) rest
  | fuel + 1, g, c :: rest =>
    if c = '\'' || c = '"' then
      let inner := rest.takeWhile fun d => d ≠ c && d ≠ '\n'
      match rest.drop inner.length with
      | d :: behind =>
        if d = c then
          let opened : Gathered := { g with begun := some (g.begun.getD []) }
          quotedWords blanks fuel (inner.foldl Gathered.add opened) behind
        else unmatched g c
      | [] => unmatched g c
    else if blanks.contains c then quotedWords blanks fuel g.close rest
    else quotedWords blanks fuel (g.add c) rest
where
  /-- The words in front of a quote without an end. -/
  unmatched (g : Gathered) (c : Char) : List Octets × Option String :=
    (g.words.reverse, some ("unmatched " ++ (if c = '"' then "double" else "single")
      ++ " quote; by default quotes are special to xargs unless you use the -0 option"))

/-- A list in pieces of a length. -/
def inPieces {α : Type} (n : Nat) : Nat → List α → List (List α)
  | 0, _ | _, [] => []
  | fuel + 1, xs => xs.take n :: inPieces n fuel (xs.drop n)

/-- A text with another in place of each mark in it. -/
def replaceAll (mark image : Octets) : Nat → Octets → Octets
  | 0, s => s
  | _, [] => []
  | fuel + 1, c :: rest =>
    if !mark.isEmpty && mark.isPrefixOf (c :: rest) then
      image ++ replaceAll mark image fuel ((c :: rest).drop mark.length)
    else c :: replaceAll mark image fuel rest

/-- The calls of a program for the arguments in a text, by the options that say how many of them
each call gets; and what is wrong with the text. -/
def batches (o : Setting.Options) (program : List Octets) (text : Octets) :
    List (List Octets) × Option String :=
  let number? (c : Char) : Option Nat := (o.value? c).bind count?
  let blanks : Octets := if (o.value? 'I').isSome then ['\n'] else [' ', '\t', '\n']
  let (words, fault) :=
    if o.has '0' then (splitAt '\x00' text, none)
    else
      match o.value? 'd' with
      | some d => (splitAt ((unescape (d.length + 1) d).1.headD '\n') text, none)
      | none => quotedWords blanks (text.length + 1) {} text
  let words :=
    if (o.value? 'I').isSome then words.map fun w => w.dropWhile fun c => c = ' ' || c = '\t'
    else words
  match o.value? 'I', number? 'L', number? 'n' with
  | some mark, _, _ =>
    (words.map fun w => program.map fun a => replaceAll mark w (a.length + 1) a, fault)
  | none, some n, _ =>
    let rows := (bareLines text).filter fun l => l.any fun c => c ≠ ' ' && c ≠ '\t'
    ((inPieces (max n 1) rows.length rows).map fun ls =>
      program ++ ls.flatMap fun l => (quotedWords blanks (l.length + 1) {} l).1, fault)
  | none, none, some n => ((inPieces (max n 1) words.length words).map (program ++ ·), fault)
  | none, none, none =>
    (if words.isEmpty && o.has 'r' then [] else [program ++ words], fault)
where
  /-- The texts between separators, of which the last one may end with one. -/
  splitAt (c : Char) (s : Octets) : List Octets :=
    if s.isEmpty then []
    else between c (if s.getLast? = some c then s.dropLast else s)

end Conformance.Shell
