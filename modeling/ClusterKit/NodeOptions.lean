import ClusterKit.Text
import ClusterKit.Lib.QuotedWords

/-! `mergeNodeOptions`, which puts the computed heap limit into `NODE_OPTIONS`, and the tokens
that Node reads there. -/

namespace ClusterKit.NodeOptions

open QuotedWords

/-! ## The code -/

/-- `--max[-_]old[-_]space[-_]size` -/
def FLAG_NAMES : List Text :=
  ['-', '_'].flatMap fun a => ['-', '_'].flatMap fun b => ['-', '_'].map fun c =>
    "--max".toList ++ a :: ("old".toList ++ b :: ("space".toList ++ c :: "size".toList))

/-- The length of `\\d+` after `n` characters. -/
def digitsEnd (n : Nat) (rest : Text) : Option Nat :=
  match rest.takeWhile Char.isDigit with
  | [] => none
  | digits => some (n + digits.length)

/-- The length of the match of `maxOldSpaceRe` that a text starts with. -/
def matchLength (text : Text) : Option Nat :=
  match FLAG_NAMES.find? fun name => name.isPrefixOf text with
  | none => none
  | some name =>
    match text.drop name.length with
    | '=' :: rest => digitsEnd (name.length + 1) rest
    | rest =>
      match rest.takeWhile isTrimmed with
      | [] => none
      | gap => digitsEnd (name.length + gap.length) (rest.drop gap.length)

/-- The text without its matches; the next `skip` characters belong to one. -/
def removeFrom : Nat → Text → Text
  | _, [] => []
  | skip + 1, _ :: rest => removeFrom skip rest
  | 0, c :: rest =>
    match matchLength (c :: rest) with
    | some n => removeFrom (n - 1) rest
    | none => c :: removeFrom 0 rest

/-- `.replace(maxOldSpaceRe, "")` -/
def removeFlags (text : Text) : Text := removeFrom 0 text

/-- What replaces a run of white space. -/
def squeeze (run : Text) : Text := if 2 ≤ run.length then [' '] else run

/-- The run of white space under way is `run`. -/
def collapseFrom (run : Text) : Text → Text
  | [] => squeeze run
  | c :: rest =>
    if isTrimmed c then collapseFrom (run ++ [c]) rest
    else squeeze run ++ c :: collapseFrom [] rest

/-- `.replace(/\\s{2,}/g, " ")` -/
def collapse (text : Text) : Text := collapseFrom [] text

def clean (text : Text) : Text := trim (collapse (removeFlags text))

def mergeNodeOptions (computed existing : Text) (extra : Option Text) : Text :=
  let cleaned := clean existing
  let cleanedExtra :=
    match extra with
    | none | some [] => []
    | some extra => clean extra
  trim ([' '].intercalate ([computed, cleaned, cleanedExtra].filter (· ≠ [])))

/-- The fragment that `calculateSizing` returns for a heap of this size. -/
def heapFlag (v8HeapMb : Nat) : Text :=
  "--max-old-space-size=".toList ++ (toString v8HeapMb).toList

/-! ## The tokens of `NODE_OPTIONS` -/

/-- Whether a character is in a quoted segment, and which words there are. -/
abbrev marksOf (inside : Bool) (text : Text) : List (Option Char) := marks '"' ' ' inside text

/-- Spaces part the tokens, save in double quotes; Node refuses a text whose last quote is not
closed. -/
def tokens (text : Text) : Option (List Text) :=
  if insideAfter '"' false text then none else some (words [] (marksOf false text))

def isFlag (token : Text) : Bool := FLAG_NAMES.contains token

def isDecimal (token : Text) : Bool := !token.isEmpty && token.all Char.isDigit

/-- `--max-old-space-size=N` in one token. -/
def isJoined (token : Text) : Bool :=
  FLAG_NAMES.any fun name =>
    (name ++ ['=']).isPrefixOf token && isDecimal (token.drop (name.length + 1))

/-- The tokens without the options that set the heap limit. -/
def withoutFlags : List Text → List Text
  | [] => []
  | token :: rest =>
    if isJoined token then withoutFlags rest
    else if isFlag token then
      match rest with
      | [] => [token]
      | value :: rest =>
        if isDecimal value then withoutFlags rest else token :: withoutFlags (value :: rest)
    else token :: withoutFlags rest

/-- How many of them there are. -/
def flagCount : List Text → Nat
  | [] => 0
  | token :: rest =>
    if isJoined token then flagCount rest + 1
    else if isFlag token then
      match rest with
      | [] => 0
      | value :: rest => if isDecimal value then flagCount rest + 1 else flagCount (value :: rest)
    else flagCount rest

/-- The tokens are one option that sets the heap limit. -/
def isOption : List Text → Bool
  | [token] => isJoined token
  | [token, value] => isFlag token && isDecimal value
  | _ => false

/-- What the merge owes to the texts it merges: their tokens without the options that set the
heap limit, after the computed one. A text that Node refuses has none. -/
def KeepsOptions (computed existing : Text) (extra : Option Text) : Prop :=
  let merged := tokens (mergeNodeOptions computed existing extra)
  (merged = do
    let own ← tokens computed
    let kept ← tokens existing
    let added ← tokens (extra.getD [])
    some (own ++ withoutFlags kept ++ withoutFlags added)) ∧
  ∀ result, merged = some result → flagCount result = 1

/-! ## Where the two part -/

/-- A match of the pattern, with what is around it. -/
structure FlagMatch where
  /-- It is in a quoted segment. -/
  inside : Bool
  /-- No token is under way before it. -/
  fresh : Bool
  text : Text
  after : Text

/-- The matches, as `removeFrom` finds them; what it removes counts as not there. -/
def matchesFrom (inside fresh : Bool) : Nat → Text → List FlagMatch
  | _, [] => []
  | skip + 1, _ :: rest => matchesFrom inside fresh skip rest
  | 0, c :: rest =>
    match matchLength (c :: rest) with
    | some n =>
      ⟨inside, fresh, (c :: rest).take n, (c :: rest).drop n⟩ :: matchesFrom inside fresh (n - 1) rest
    | none =>
      if c = '"' then matchesFrom (!inside) fresh 0 rest
      else matchesFrom inside (c == ' ' && !inside) 0 rest

/-- The part of a token that follows the match. -/
def FlagMatch.continued (found : FlagMatch) : Text := firstWord (marksOf found.inside found.after)

/-- The match reads as an option, and no token goes on before or after it. -/
def FlagMatch.whole (found : FlagMatch) : Bool :=
  found.fresh && isOption (words [] (marksOf found.inside found.text)) && found.continued.isEmpty

/-- The runs of white space, and whether each is in a quoted segment. -/
def runsFrom (inside : Bool) (run : Text) : Text → List (Bool × Text)
  | [] => [(inside, run)]
  | c :: rest =>
    if isTrimmed c then runsFrom inside (run ++ [c]) rest
    else (inside, run) :: runsFrom (if c = '"' then !inside else inside) [] rest

/-- Squeezing a run changes no token. -/
def parting (run : Bool × Text) : Bool :=
  decide (run.2.length < 2) || (!run.1 && run.2.all (· == ' '))

/-- The pattern matches the options of a text and nothing else, and the white space that is
left only parts tokens. -/
def wellSpelled (text : Text) : Bool :=
  let found := matchesFrom false true 0 text
  let kept := removeFlags text
  found.all FlagMatch.whole && found.length == flagCount (words [] (marksOf false text)) &&
    (kept.takeWhile isTrimmed).all (· == ' ') && (kept.reverse.takeWhile isTrimmed).all (· == ' ') &&
    (runsFrom false [] (trim kept)).all parting

/-- Two texts that are merged token by token: both well spelled, with no option that comes to
be when others are taken out, or one of them refused. -/
def mergeable (existing added : Text) : Bool :=
  match tokens existing, tokens added with
  | some kept, some own =>
    wellSpelled existing && wellSpelled added &&
      flagCount (withoutFlags kept ++ withoutFlags own) == 0
  | none, none => false
  | _, _ => true

end ClusterKit.NodeOptions
