import ViewTemplate.Script.Token

/-!
# Tokens and where they stand

A lexeme is a token with the positions at which it starts and ends, counted in bytes.  The strict
reading of a script fails at the first junk, the lenient one passes over it.
-/

namespace ViewTemplate.Script

/-- A token and the bytes it covers. -/
structure Lexeme where
  token : Token
  start : Nat
  stop : Nat
  deriving DecidableEq

/-- The number of bytes a text takes. -/
def byteSize (text : List Char) : Nat :=
  text.foldl (fun n c => n + c.utf8Size) 0

@[simp] theorem byteSize_nil : byteSize [] = 0 := rfl

@[simp] theorem byteSize_cons (c : Char) (text : List Char) :
    byteSize (c :: text) = c.utf8Size + byteSize text := by
  have h : ∀ n, text.foldl (fun n c => n + c.utf8Size) n = n + byteSize text := by
    unfold byteSize
    induction text with
    | nil => simp
    | cons d text ih =>
      intro n
      rw [List.foldl_cons, List.foldl_cons, ih, ih (0 + d.utf8Size)]
      omega
  rw [byteSize, List.foldl_cons, h, Nat.zero_add]

@[simp] theorem byteSize_append (text more : List Char) :
    byteSize (text ++ more) = byteSize text + byteSize more := by
  induction text with
  | nil => simp
  | cons c text ih => simp only [List.cons_append, byteSize_cons, ih, Nat.add_assoc]

/-- The lexemes of pieces that start at `offset`; junk is passed over. -/
def lexemesFrom (offset : Nat) : List Piece → List Lexeme
  | [] => []
  | p :: rest =>
    let stop := offset + byteSize p.text
    match p.kind with
    | .token t => ⟨t, offset, stop⟩ :: lexemesFrom stop rest
    | _ => lexemesFrom stop rest

theorem lexemesFrom_token {p : Piece} {t : Token} (hp : p.kind = .token t) (offset : Nat)
    (rest : List Piece) : lexemesFrom offset (p :: rest) =
      ⟨t, offset, offset + byteSize p.text⟩ :: lexemesFrom (offset + byteSize p.text) rest := by
  simp only [lexemesFrom, hp]

theorem lexemesFrom_skip {p : Piece} (hp : ∀ t, p.kind ≠ .token t) (offset : Nat)
    (rest : List Piece) :
    lexemesFrom offset (p :: rest) = lexemesFrom (offset + byteSize p.text) rest := by
  rw [lexemesFrom]
  split
  · exact absurd ‹_› (hp _)
  · rfl

/-- Where the first junk of pieces that start at `offset` stands. -/
def junkFrom? (offset : Nat) : List Piece → Option Nat
  | [] => none
  | p :: rest =>
    match p.kind with
    | .junk => some offset
    | _ => junkFrom? (offset + byteSize p.text) rest

/-- The lexemes of a script, junk passed over. -/
def lexemes (source : List Char) : List Lexeme :=
  lexemesFrom 0 (pieces source)

/-- The lexemes of a script without junk, or where the first junk stands. -/
def strictLexemes (source : List Char) : Except Nat (List Lexeme) :=
  let cut := pieces source
  match junkFrom? 0 cut with
  | some offset => .error offset
  | none => .ok (lexemesFrom 0 cut)

end ViewTemplate.Script
