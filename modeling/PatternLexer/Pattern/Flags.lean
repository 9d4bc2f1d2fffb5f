/-!
# Pattern flags

The options under which a pattern is read and matched. A pattern has flags of its own, and a group
inside it may switch some of them on and off for its body.
-/

namespace PatternLexer

/-- One option, as named by a letter in a pattern. -/
inductive Flag where
  | ascii
  | ignoreCase
  | locale
  | multiline
  | dotAll
  | template
  | unicode
  | verbose
deriving Repr, DecidableEq

/-- The option that a letter names. -/
def Flag.ofLetter? : Char → Option Flag
  | 'a' => some .ascii
  | 'i' => some .ignoreCase
  | 'L' => some .locale
  | 'm' => some .multiline
  | 's' => some .dotAll
  | 't' => some .template
  | 'u' => some .unicode
  | 'x' => some .verbose
  | _ => none

/-- The options that choose the character classes; at most one of them may be given. -/
def Flag.choosesClasses : Flag → Bool
  | .ascii | .locale | .unicode => true
  | _ => false

/-- A set of options. The locale option is refused wherever it is named, so it has no field. -/
structure Flags where
  /-- Classes, boundaries and case know ASCII only. -/
  ascii : Bool := false
  /-- Letters match whatever their case. -/
  ignoreCase : Bool := false
  /-- The line anchors hold at every line. -/
  multiline : Bool := false
  /-- The dot matches a line feed too. -/
  dotAll : Bool := false
  /-- Repetition is refused. -/
  template : Bool := false
  /-- Classes, boundaries and case know all scripts. -/
  unicode : Bool := false
  /-- Blanks and comments between the elements of a pattern are skipped. -/
  verbose : Bool := false
deriving Repr, DecidableEq

namespace Flags

/-- Adds one option. -/
def insert (fs : Flags) : Flag → Flags
  | .ascii => { fs with ascii := true }
  | .ignoreCase => { fs with ignoreCase := true }
  | .locale => fs
  | .multiline => { fs with multiline := true }
  | .dotAll => { fs with dotAll := true }
  | .template => { fs with template := true }
  | .unicode => { fs with unicode := true }
  | .verbose => { fs with verbose := true }

/-- Options of either set. -/
def union (a b : Flags) : Flags where
  ascii := a.ascii || b.ascii
  ignoreCase := a.ignoreCase || b.ignoreCase
  multiline := a.multiline || b.multiline
  dotAll := a.dotAll || b.dotAll
  template := a.template || b.template
  unicode := a.unicode || b.unicode
  verbose := a.verbose || b.verbose

/-- Options of `a` that are not in `b`. -/
def diff (a b : Flags) : Flags where
  ascii := a.ascii && !b.ascii
  ignoreCase := a.ignoreCase && !b.ignoreCase
  multiline := a.multiline && !b.multiline
  dotAll := a.dotAll && !b.dotAll
  template := a.template && !b.template
  unicode := a.unicode && !b.unicode
  verbose := a.verbose && !b.verbose

/-- Options of both sets. -/
def inter (a b : Flags) : Flags := a.diff (a.diff b)

/-- No option is set. -/
def isEmpty (fs : Flags) : Bool := fs == {}

/-- One of the options that choose the character classes is set. -/
def choosesClasses (fs : Flags) : Bool := fs.ascii || fs.unicode

/-- The flags inside a group that switches `on` on and `off` off. Switching a choice of classes on
takes back the choice made outside. -/
def within (fs on off : Flags) : Flags :=
  let kept := if on.choosesClasses then { fs with ascii := false, unicode := false } else fs
  (kept.union on).diff off

/-- The letters of the set options among `a`, `i`, `m`, `s`, `x`, in this order: those that a group can
carry for its body. -/
def scopeLetters (fs : Flags) : List Char :=
  (if fs.ascii then ['a'] else []) ++ (if fs.ignoreCase then ['i'] else []) ++
  (if fs.multiline then ['m'] else []) ++ (if fs.dotAll then ['s'] else []) ++
  (if fs.verbose then ['x'] else [])

/-- The letters of the set options, in the order `a`, `i`, `m`, `s`, `u`, `x`. -/
def letters (fs : Flags) : List Char :=
  (if fs.ascii then ['a'] else []) ++ (if fs.ignoreCase then ['i'] else []) ++
  (if fs.multiline then ['m'] else []) ++ (if fs.dotAll then ['s'] else []) ++
  (if fs.unicode then ['u'] else []) ++ (if fs.verbose then ['x'] else [])

/-- The options named by letters; letters that name none are skipped. -/
def ofLetters (cs : List Char) : Flags :=
  (cs.filterMap Flag.ofLetter?).foldl insert {}

end Flags

end PatternLexer
