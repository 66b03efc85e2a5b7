/-
**The small parts of a TOML document: blanks, comments, quoted texts and keys.**

A quoted text stands on one line between single marks, or on any number of lines between triple
marks.  Between `"` marks a backslash begins an escape, between apostrophes every character stands
for itself.

Main definitions:

* `HookBridge.Toml.Reader` — reads something from the front of a text and leaves the rest;
* `HookBridge.Toml.skipBlanks`, `HookBridge.Toml.skipLines` — over blanks; over line ends and
  comments too;
* `HookBridge.Toml.lineEnd?` — the end of a line;
* `HookBridge.Toml.Quoting`, `HookBridge.Toml.readQuoted` — quoted texts;
* `HookBridge.Toml.readPath` — a key, with its parts between dots.
-/

set_option relaxedAutoImplicit false
set_option autoImplicit false

namespace HookBridge

namespace Toml

/-- Reads something from the front of a text, and leaves the rest. -/
abbrev Reader (α : Type) := List Char → Option (α × List Char)

/-! ### Blanks, line ends and comments -/

/-- A blank inside a line. -/
def isBlank (c : Char) : Bool := c == ' ' || c == '\t'

/-- A character that may stand in comments and quoted texts: no control character but the tab. -/
def isPrintable (c : Char) : Bool := c == '\t' || (0x20 ≤ c.toNat && c.toNat != 0x7F)

/-- What follows the blanks. -/
def skipBlanks (cs : List Char) : List Char := cs.dropWhile isBlank

/-- What follows a line break, if one stands next. -/
def newline? : List Char → Option (List Char)
  | '\n' :: rest => some rest
  | '\r' :: '\n' :: rest => some rest
  | _ => none

/-- What follows the comment, if one stands next. -/
def skipComment : List Char → List Char
  | '#' :: rest => rest.dropWhile isPrintable
  | cs => cs

/-- What follows the end of the line, which may have blanks and a comment before it. -/
def lineEnd? (cs : List Char) : Option (List Char) :=
  match skipComment (skipBlanks cs) with
  | [] => some []
  | cs => newline? cs

/-- What follows blanks and line breaks. -/
def skipSpace : List Char → List Char
  | [] => []
  | c :: rest =>
      if isBlank c || c == '\n' then skipSpace rest
      else if c == '\r' && rest.head? == some '\n' then skipSpace rest
      else c :: rest

/-- What follows blanks, line breaks and comments; the flag tells whether a comment has begun. -/
def skipLines (inComment : Bool) : List Char → List Char
  | [] => []
  | c :: rest =>
      if inComment && isPrintable c then skipLines true rest
      else if isBlank c || c == '\n' then skipLines false rest
      else if c == '\r' && rest.head? == some '\n' then skipLines false rest
      else if c == '#' then skipLines true rest
      else c :: rest

/-! ### Digits -/

/-- The value of a digit of any base up to sixteen. -/
def digitValue? (c : Char) : Option Nat :=
  if '0' ≤ c ∧ c ≤ '9' then some (c.toNat - 0x30)
  else if 'A' ≤ c ∧ c ≤ 'F' then some (c.toNat - 0x41 + 10)
  else if 'a' ≤ c ∧ c ≤ 'f' then some (c.toNat - 0x61 + 10)
  else none

/-- A digit of the base. -/
def isDigit (base : Nat) (c : Char) : Bool := (digitValue? c).any (· < base)

/-- The number that digits write, the highest first. -/
def ofDigits (base : Nat) (ds : List Char) : Nat :=
  ds.foldl (fun n d => base * n + (digitValue? d).getD 0) 0

/-! ### Escapes -/

/-- The character of an escape that is a single letter. -/
def shortEscape? : Char → Option Char
  | 'b' => some '\x08'
  | 't' => some '\t'
  | 'n' => some '\n'
  | 'f' => some '\x0c'
  | 'r' => some '\r'
  | '"' => some '"'
  | '\\' => some '\\'
  | _ => none

/-- Reads a character that is named by `width` hexadecimal digits. -/
def readCode (width : Nat) : Reader Char := fun cs =>
  let digits := cs.take width
  let code := ofDigits 16 digits
  if digits.length = width ∧ digits.all (isDigit 16) ∧ code.isValidChar then
    some (Char.ofNat code, cs.drop width)
  else none

/-- Reads what follows the backslash of an escape. -/
def readEscape : Reader Char
  | [] => none
  | c :: rest =>
      if c = 'u' then readCode 4 rest
      else if c = 'U' then readCode 8 rest
      else (shortEscape? c).map fun x => (x, rest)

theorem readCode_length {width : Nat} {cs rest : List Char} {x : Char}
    (h : readCode width cs = some (x, rest)) : rest.length ≤ cs.length := by
  simp only [readCode] at h
  split at h
  · cases h; simp
  · simp at h

theorem readEscape_length {cs rest : List Char} {x : Char}
    (h : readEscape cs = some (x, rest)) : rest.length ≤ cs.length := by
  cases cs with
  | nil => simp [readEscape] at h
  | cons c cs =>
      simp only [readEscape] at h
      split at h
      · have := readCode_length h; simp only [List.length_cons]; omega
      split at h
      · have := readCode_length h; simp only [List.length_cons]; omega
      obtain ⟨y, _, he⟩ := Option.map_eq_some_iff.1 h
      cases he
      simp

theorem newline?_length {cs rest : List Char} (h : newline? cs = some rest) :
    rest.length < cs.length := by
  unfold newline? at h
  split at h
  · cases h; simp
  · cases h; simp only [List.length_cons]; omega
  · simp at h

theorem length_skipSpace_le (cs : List Char) : (skipSpace cs).length ≤ cs.length := by
  induction cs with
  | nil => simp [skipSpace]
  | cons c cs ih =>
      simp only [skipSpace]
      split
      · simp only [List.length_cons]; omega
      split
      · simp only [List.length_cons]; omega
      · simp

/-! ### Quoted texts -/

/-- The two ways to quote: with escapes, and letter by letter. -/
inductive Quoting
  | escaped
  | literal
  deriving DecidableEq, Repr

namespace Quoting

/-- The quotation mark. -/
def mark : Quoting → Char
  | escaped => '"'
  | literal => '\x27'

/-- The way of quoting that begins with a character. -/
def ofMark? (c : Char) : Option Quoting :=
  if c = escaped.mark then some escaped
  else if c = literal.mark then some literal
  else none

/-- A backslash begins an escape. -/
def isEscape (q : Quoting) (c : Char) : Bool := q == escaped && c == '\\'

/-- Reads up to the mark that ends a text on one line, behind the characters read already, those in
reverse. -/
def readLine (q : Quoting) (done : List Char) : Reader String
  | [] => none
  | c :: rest =>
      if c = q.mark then some (String.ofList done.reverse, rest)
      else if q.isEscape c then
        match _h : readEscape rest with
        | some (x, rest') => readLine q (x :: done) rest'
        | none => none
      else if isPrintable c then readLine q (c :: done) rest
      else none
termination_by cs => cs.length
decreasing_by
  · have := readEscape_length _h; simp only [List.length_cons]; omega
  · simp

/-- What follows a backslash that joins two lines: blanks to the end of its line, and all blanks and
line breaks from there. -/
def joined? (cs : List Char) : Option (List Char) :=
  match newline? (skipBlanks cs) with
  | some rest => some (skipSpace rest)
  | none => none

/-- Behind three marks up to two more may stand, which belong to the text. -/
def closeBlock (q : Quoting) (done rest : List Char) : String × List Char :=
  let extra := (rest.take 2).takeWhile (· == q.mark)
  (String.ofList (extra ++ done).reverse, rest.drop extra.length)

theorem joined?_length {cs rest : List Char} (h : joined? cs = some rest) :
    rest.length ≤ cs.length := by
  unfold joined? at h
  split at h
  · next hn =>
    cases h
    have h₁ := newline?_length hn
    have h₂ := length_skipSpace_le ‹List Char›
    have h₃ : (skipBlanks cs).length ≤ cs.length := (List.dropWhile_sublist _).length_le
    omega
  · simp at h

/-- Reads up to the marks that end a text on many lines.  A run of marks that is too short to end it
belongs to the text. -/
def readBlock (q : Quoting) (done : List Char) : Reader String
  | [] => none
  | c :: rest =>
      if c = q.mark then
        if rest.take 2 = [q.mark, q.mark] then some (q.closeBlock done (rest.drop 2))
        else readBlock q (c :: done) rest
      else if q.isEscape c then
        match _hj : joined? rest with
        | some rest' => readBlock q done rest'
        | none =>
            match _he : readEscape rest with
            | some (x, rest') => readBlock q (x :: done) rest'
            | none => none
      else
        match _hn : newline? (c :: rest) with
        | some rest' => readBlock q ('\n' :: done) rest'
        | none => if isPrintable c then readBlock q (c :: done) rest else none
termination_by cs => cs.length
decreasing_by
  · simp
  · have := joined?_length _hj; simp only [List.length_cons]; omega
  · have := readEscape_length _he; simp only [List.length_cons]; omega
  · exact newline?_length _hn
  · simp

end Quoting

/-- Reads a quoted text of any form.  The line break right behind three marks is no part of it. -/
def readQuoted : Reader String
  | [] => none
  | c :: rest =>
      match Quoting.ofMark? c with
      | none => none
      | some q =>
          if rest.take 2 = [c, c] then
            q.readBlock [] ((newline? (rest.drop 2)).getD (rest.drop 2))
          else q.readLine [] rest

/-! ### Keys -/

/-- A character of a key that is not quoted. -/
def isKeyChar (c : Char) : Bool := c.isAlphanum || c == '-' || c == '_'

/-- Reads one part of a key. -/
def readName : Reader String
  | [] => none
  | c :: rest =>
      match Quoting.ofMark? c with
      | some q => q.readLine [] rest
      | none =>
          if isKeyChar c then
            some (String.ofList (c :: rest.takeWhile isKeyChar), rest.dropWhile isKeyChar)
          else none

/-- Reads items with a separator between each two, at most as many as the first argument says. -/
def readSeparated {α : Type} (item : Reader α) (separator : Char) : Nat → Reader (List α)
  | 0, _ => none
  | n + 1, cs =>
      match item cs with
      | none => none
      | some (x, rest) =>
          match rest with
          | c :: rest' =>
              if c = separator then
                (readSeparated item separator n rest').map fun (xs, rest) => (x :: xs, rest)
              else some ([x], rest)
          | [] => some ([x], [])

/-- The number of parts that a key has to stay below. -/
def pathLimit : Nat := 128

/-- Reads a key: its parts, between dots, with any blanks around each. -/
def readPath : Reader (List String) := fun cs =>
  let part : Reader String := fun cs =>
    (readName (skipBlanks cs)).map fun (name, rest) => (name, skipBlanks rest)
  match readSeparated part '.' (cs.length + 1) cs with
  | some (path, rest) => if path.length < pathLimit then some (path, rest) else none
  | none => none

end Toml

end HookBridge
