import SqlGrader.Token.Lexer
import SqlGrader.Proofs.Text.LongestFront
import SqlGrader.Proofs.Unicode.CharacterClasses

/-!
# Spans of a text

A step of the lexer takes one span off a text: white space, a comment, a quoted text, a number,
a word or a sign. `Reads` gives the form of each kind of span and what may stand after it; of
the text that follows only the first character counts. Main statement: a step of the lexer takes
off a span exactly when it reads (`nextLexeme_eq_ok_iff`).
-/

set_option autoImplicit false

namespace SqlGrader.Lexer

/-! ## Quotes and comments -/

/-- A text as it stands between quotes. -/
def doubled (quote : Char) (value : List Char) : List Char :=
  value.flatMap fun c => if c = quote then [quote, quote] else [c]

@[simp] theorem doubled_nil (quote : Char) : doubled quote [] = [] := rfl

theorem doubled_cons (quote c : Char) (value : List Char) :
    doubled quote (c :: value) =
      (if c = quote then [quote, quote] else [c]) ++ doubled quote value :=
  rfl

/-- What is read up to the closing quote is the text whose quotes were doubled. -/
theorem closeQuote?_doubled {quote : Char} {rest : List Char} (value : List Char)
    (stop : rest.head? ≠ some quote) :
    closeQuote? quote (doubled quote value ++ quote :: rest) =
      some (value, Text.byteLength (doubled quote value ++ [quote]), rest) := by
  induction value with
  | nil =>
    cases rest with
    | nil => simp [closeQuote?, Text.byteLength]
    | cons d ds =>
      have different : d ≠ quote := fun equal => stop (by simp [equal])
      simp [closeQuote?, Text.byteLength, different]
  | cons c value ih =>
    rw [doubled_cons]
    by_cases equal : c = quote
    · subst c
      simp only [if_true, List.cons_append, List.nil_append]
      rw [closeQuote?, if_pos rfl, if_pos rfl, ih]
      simp only [Option.map_some, Text.byteLength, Nat.add_assoc]
    · rw [if_neg equal]
      simp only [List.cons_append, List.nil_append]
      cases tail : doubled quote value ++ quote :: rest with
      | nil => simp at tail
      | cons d ds =>
        rw [closeQuote?, if_neg equal, ← tail, ih]
        simp only [Option.map_some, Text.byteLength]

theorem eq_doubled_of_closeQuote? {quote : Char} {cs value rest : List Char} {width : Nat}
    (h : closeQuote? quote cs = some (value, width, rest)) :
    cs = doubled quote value ++ quote :: rest ∧ rest.head? ≠ some quote ∧
      width = Text.byteLength (doubled quote value ++ [quote]) := by
  fun_induction closeQuote? quote cs generalizing value width rest with
  | case1 => cases h
  | case2 => cases h; exact ⟨rfl, by simp, rfl⟩
  | case3 => cases h
  | case4 tail ih =>
    obtain ⟨⟨v, w, r⟩, hr, heq⟩ := Option.map_eq_some_iff.1 h
    cases heq
    obtain ⟨text, stop, length⟩ := ih hr
    refine ⟨by simp [doubled_cons, text], stop, ?_⟩
    simp [doubled_cons, Text.byteLength, length, Nat.add_assoc]
  | case5 d tail different =>
    cases h
    exact ⟨rfl, by simpa using different, rfl⟩
  | case6 c d tail different ih =>
    obtain ⟨⟨v, w, r⟩, hr, heq⟩ := Option.map_eq_some_iff.1 h
    cases heq
    obtain ⟨text, stop, length⟩ := ih hr
    refine ⟨by simp [doubled_cons, different, text], stop, ?_⟩
    simp [doubled_cons, different, Text.byteLength, length]

theorem close_infix_cons {c : Char} {body : List Char} :
    ['*', '/'] <:+: c :: body ↔ (c = '*' ∧ body.head? = some '/') ∨ ['*', '/'] <:+: body := by
  rw [List.infix_cons_iff]
  refine or_congr_left ?_
  cases body <;> simp [eq_comm]

theorem byteLength_close : Text.byteLength ['*', '/'] = 2 := by decide

/-- A block comment ends at the first sign that closes it. -/
theorem closeComment?_append {body : List Char} (rest : List Char)
    (inside : ¬ ['*', '/'] <:+: body) :
    closeComment? (body ++ '*' :: '/' :: rest) =
      some (Text.byteLength (body ++ ['*', '/']), rest) := by
  induction body with
  | nil => rw [List.nil_append, List.nil_append, byteLength_close, closeComment?]
  | cons c body ih =>
    rw [close_infix_cons, not_or] at inside
    have later := ih inside.2
    rw [List.cons_append, closeComment?]
    · simp [later, Text.byteLength]
    · intro tail star first
      cases body with
      | nil => simp at first
      | cons d body => exact inside.1 ⟨star, by simpa using (List.cons.inj first).1⟩

theorem eq_append_of_closeComment? {cs rest : List Char} {width : Nat}
    (h : closeComment? cs = some (width, rest)) :
    ∃ body, cs = body ++ '*' :: '/' :: rest ∧ ¬ ['*', '/'] <:+: body ∧
      width = Text.byteLength (body ++ ['*', '/']) := by
  induction cs generalizing width rest with
  | nil => cases h
  | cons c cs ih =>
    unfold closeComment? at h
    split at h
    · cases h
      exact ⟨[], rfl, by simp, rfl⟩
    · rename_i open?
      obtain ⟨⟨w, r⟩, hr, heq⟩ := Option.map_eq_some_iff.1 h
      cases heq
      obtain ⟨body, text, inside, length⟩ := ih hr
      refine ⟨c :: body, by simp [text], ?_, by simp [Text.byteLength, length]⟩
      rw [close_infix_cons, not_or]
      refine ⟨?_, inside⟩
      rintro ⟨star, slash⟩
      cases body with
      | nil => simp at slash
      | cons d body =>
        obtain rfl : d = '/' := by simpa using slash
        exact open? _ star text

/-! ## Forms of spans -/

def wordKind (word : List Char) : TokenKind :=
  match Keyword.ofWord? word with
  | some keyword => .keyword keyword
  | none => .identifier (String.ofList word)

/-- A text that reads as one span in front of a character, or of the end, and the token that it
makes, if it makes one. -/
inductive Reads (next? : Option Char) : List Char → Option TokenKind → Prop where
  | whiteSpace {c : Char} (white : Unicode.isWhiteSpace c = true) : Reads next? [c] none
  | lineComment {body : List Char} (inside : '\n' ∉ body)
      (stop : ∀ d, next? = some d → d = '\n') : Reads next? ('-' :: '-' :: body) none
  | blockComment {body : List Char} (inside : ¬ ['*', '/'] <:+: body) :
      Reads next? ('/' :: '*' :: (body ++ ['*', '/'])) none
  | string {value : List Char} (stop : next? ≠ some '\'') :
      Reads next? ('\'' :: (doubled '\'' value ++ ['\'']))
        (some (.string (String.ofList value)))
  | identifier {quote : Char} {value : List Char} (sign : quote = '"' ∨ quote = '\x60')
      (stop : next? ≠ some quote) :
      Reads next? (quote :: (doubled quote value ++ [quote]))
        (some (.identifier (String.ofList value)))
  | whole {c : Char} {digits : List Char} {kind : TokenKind} (first : c.isDigit = true)
      (inside : ∀ d ∈ digits, d.isDigit = true)
      (stop : ∀ d, next? = some d → d.isDigit = false ∧ d ≠ '.')
      (value : numberKind? (c :: digits) = some kind) : Reads next? (c :: digits) (some kind)
  | fraction {c : Char} {digits places : List Char} {kind : TokenKind} (first : c.isDigit = true)
      (inside : ∀ d ∈ digits, d.isDigit = true) (behind : ∀ d ∈ places, d.isDigit = true)
      (stop : ∀ d, next? = some d → d.isDigit = false)
      (value : numberKind? (c :: (digits ++ '.' :: places)) = some kind) :
      Reads next? (c :: (digits ++ '.' :: places)) (some kind)
  | word {c : Char} {letters : List Char} (first : beginsWord c = true)
      (inside : ∀ d ∈ letters, continuesWord d = true)
      (stop : ∀ d, next? = some d → continuesWord d = false) :
      Reads next? (c :: letters) (some (wordKind (c :: letters)))
  | sign {c : Char} (notWhite : Unicode.isWhiteSpace c = false)
      (notQuote : c ≠ '\'' ∧ c ≠ '"' ∧ c ≠ '\x60') (notDigit : c.isDigit = false)
      (notWord : beginsWord c = false) (notComment : c = '-' → next? ≠ some '-')
      (notBlock : c = '/' → next? ≠ some '*') :
      Reads next? [c] (some ((signKind? c).getD (.symbol c)))

/-- A sign reads in front of whatever does not make a comment of it. -/
theorem reads_sign {c : Char} {kind : TokenKind} {next? : Option Char}
    (isSign : signKind? c = some kind) (notComment : c = '-' → next? ≠ some '-') :
    Reads next? [c] (some kind) := by
  have read : Reads next? [c] (some ((signKind? c).getD (.symbol c))) := by
    unfold signKind? at isSign
    split at isSign
    case h_11 => cases isSign
    all_goals
      exact .sign (by decide) (by decide) (by decide) (by decide) notComment (by simp)
  rwa [isSign] at read

/-! ## A step of the lexer -/

/-- A lexeme takes a span off a text. -/
def TakesOff (cs : List Char) (lexeme : Lexeme) : Prop :=
  ∃ text, cs = text ++ lexeme.rest ∧ lexeme.width = Text.byteLength text ∧
    Reads lexeme.rest.head? text lexeme.kind?

theorem takesOff_quotedLexeme {position : Nat} {kind : String → TokenKind} {quote : Char}
    {rest : List Char} {lexeme : Lexeme} (h : quotedLexeme position kind quote rest = .ok lexeme)
    (form : ∀ (next? : Option Char) (value : List Char), next? ≠ some quote →
      Reads next? (quote :: (doubled quote value ++ [quote])) (some (kind (String.ofList value)))) :
    TakesOff (quote :: rest) lexeme := by
  unfold quotedLexeme at h
  split at h
  · rename_i value width after closes
    cases h
    obtain ⟨text, stop, length⟩ := eq_doubled_of_closeQuote? closes
    refine ⟨quote :: (doubled quote value ++ [quote]), by simp [text], ?_, form _ _ stop⟩
    simp [Text.byteLength, length]
  · cases h

theorem takesOff_numberLexeme {c : Char} {rest : List Char} {lexeme : Lexeme}
    (first : c.isDigit = true) (h : numberLexeme c rest = .ok lexeme) :
    TakesOff (c :: rest) lexeme := by
  obtain ⟨inside, stop⟩ := Text.longest_front (p := Char.isDigit) rest
  have whole := List.takeWhile_append_dropWhile (p := Char.isDigit) (l := rest)
  unfold numberLexeme at h
  split at h
  · rename_i tail point
    obtain ⟨behind, stop⟩ := Text.longest_front (p := Char.isDigit) tail
    have places := List.takeWhile_append_dropWhile (p := Char.isDigit) (l := tail)
    dsimp only at h
    split at h
    · rename_i kind value
      cases h
      refine ⟨_, ?_, rfl, .fraction first inside behind stop value⟩
      rw [point] at whole
      simp [places, whole]
    · cases h
  · rename_i noPoint
    dsimp only at h
    split at h
    · rename_i kind value
      cases h
      refine ⟨_, by simp [whole], rfl, .whole first inside (fun d head => ⟨stop d head, ?_⟩) value⟩
      rintro rfl
      obtain ⟨tail, point⟩ := List.head?_eq_some_iff.1 head
      exact noPoint tail point
    · cases h

theorem takesOff_lineComment {rest : List Char} (dash : rest.head? = some '-') :
    TakesOff ('-' :: rest) ⟨none, '-'.utf8Size + Text.byteLength (rest.takeWhile (· != '\n')),
      rest.dropWhile (· != '\n')⟩ := by
  obtain ⟨body, rfl⟩ := List.head?_eq_some_iff.1 dash
  obtain ⟨inside, stop⟩ := Text.longest_front (p := (· != '\n')) body
  have whole := List.takeWhile_append_dropWhile (p := (· != '\n')) (l := body)
  have front : ('-' :: body).takeWhile (· != '\n') = '-' :: body.takeWhile (· != '\n') := rfl
  have back : ('-' :: body).dropWhile (· != '\n') = body.dropWhile (· != '\n') := rfl
  rw [front, back]
  refine ⟨'-' :: '-' :: body.takeWhile (· != '\n'), by simp [whole], rfl, .lineComment ?_ ?_⟩
  · intro member
    simpa using inside '\n' member
  · intro d head
    simpa using stop d head

/-- What a step of the lexer takes off is a span. -/
theorem takesOff_nextLexeme {position : Nat} {c : Char} {rest : List Char} {lexeme : Lexeme}
    (h : nextLexeme position c rest = .ok lexeme) : TakesOff (c :: rest) lexeme := by
  unfold nextLexeme at h
  split at h
  · rename_i white
    cases h
    exact ⟨[c], rfl, rfl, .whiteSpace white⟩
  rename_i notWhite
  split at h
  · rename_i dashes
    cases h
    obtain ⟨rfl, dash⟩ := dashes
    exact takesOff_lineComment dash
  rename_i notComment
  split at h
  · rename_i opens
    obtain ⟨rfl, star⟩ := opens
    obtain ⟨inner, rfl⟩ := List.head?_eq_some_iff.1 star
    split at h
    · rename_i width after closes
      cases h
      obtain ⟨body, text, inside, length⟩ := eq_append_of_closeComment? closes
      refine ⟨'/' :: '*' :: (body ++ ['*', '/']), ?_, ?_, .blockComment inside⟩
      · simpa using text
      · have sizes : '/'.utf8Size + '*'.utf8Size = 2 := by decide
        simp only [Text.byteLength, length]
        omega
    · cases h
  rename_i notBlock
  split at h
  · rename_i quote
    subst quote
    exact takesOff_quotedLexeme h fun _ _ stop => .string stop
  rename_i notString
  split at h
  · rename_i quote
    exact takesOff_quotedLexeme h fun _ _ stop => .identifier quote stop
  rename_i notIdentifier
  split at h
  · rename_i digit
    exact takesOff_numberLexeme digit h
  rename_i notDigit
  split at h
  · rename_i letter
    cases h
    obtain ⟨inside, stop⟩ := Text.longest_front (p := continuesWord) rest
    have whole := List.takeWhile_append_dropWhile (p := continuesWord) (l := rest)
    exact ⟨_, by simp [wordLexeme, whole], rfl, .word letter inside stop⟩
  · rename_i notWord
    cases h
    refine ⟨[c], rfl, rfl, .sign ?_ ?_ ?_ ?_ ?_ ?_⟩
    · simpa using notWhite
    · exact ⟨notString, fun h => notIdentifier (.inl h), fun h => notIdentifier (.inr h)⟩
    · simpa using notDigit
    · simpa using notWord
    · exact fun dash next => notComment ⟨dash, next⟩
    · exact fun slash next => notBlock ⟨slash, next⟩

/-- A character that begins a word stands for nothing else. -/
theorem word_first {c : Char} (h : beginsWord c = true) :
    Unicode.isWhiteSpace c = false ∧ c ≠ '-' ∧ c ≠ '/' ∧ c ≠ '\'' ∧ c ≠ '"' ∧ c ≠ '\x60' ∧
      c.isDigit = false := by
  have notWhite : Unicode.isWhiteSpace c = false := by
    apply Bool.eq_false_iff.2
    intro white
    have apart := Unicode.isAlphanumeric_of_isWhiteSpace white
    rw [Unicode.isAlphanumeric, Bool.or_eq_false_iff] at apart
    rw [beginsWord, apart.1, Bool.false_or, decide_eq_true_eq] at h
    subst h
    revert white
    decide
  have notDigit : c.isDigit = false := by
    apply Bool.eq_false_iff.2
    intro digit
    rw [beginsWord, Unicode.isAlphabetic_of_isDigit digit, Bool.false_or, decide_eq_true_eq] at h
    subst h
    revert digit
    decide
  refine ⟨notWhite, ?_, ?_, ?_, ?_, ?_, notDigit⟩ <;> rintro rfl <;> revert h <;> decide

/-- A digit is the beginning of a number and of nothing else. -/
theorem digit_first {c : Char} (h : c.isDigit = true) :
    Unicode.isWhiteSpace c = false ∧ c ≠ '-' ∧ c ≠ '/' ∧ c ≠ '\'' ∧ c ≠ '"' ∧ c ≠ '\x60' := by
  refine ⟨Unicode.isWhiteSpace_of_isDigit h, ?_, ?_, ?_, ?_, ?_⟩ <;> rintro rfl <;> revert h <;>
    decide

theorem numberLexeme_digits {c : Char} {digits rest : List Char} {kind : TokenKind}
    (inside : ∀ d ∈ digits, d.isDigit = true)
    (stop : ∀ d, rest.head? = some d → d.isDigit = false ∧ d ≠ '.')
    (value : numberKind? (c :: digits) = some kind) :
    numberLexeme c (digits ++ rest) = .ok ⟨some kind, Text.byteLength (c :: digits), rest⟩ := by
  obtain ⟨front, back⟩ := Text.takeWhile_front rest inside fun d head => (stop d head).1
  unfold numberLexeme
  rw [front, back]
  split
  · exact absurd rfl (stop '.' rfl).2
  · simp [value]

theorem numberLexeme_places {c : Char} {digits places rest : List Char} {kind : TokenKind}
    (inside : ∀ d ∈ digits, d.isDigit = true) (behind : ∀ d ∈ places, d.isDigit = true)
    (stop : ∀ d, rest.head? = some d → d.isDigit = false)
    (value : numberKind? (c :: (digits ++ '.' :: places)) = some kind) :
    numberLexeme c (digits ++ '.' :: (places ++ rest)) =
      .ok ⟨some kind, Text.byteLength (c :: (digits ++ '.' :: places)), rest⟩ := by
  obtain ⟨front, back⟩ := Text.takeWhile_front (p := Char.isDigit) ('.' :: (places ++ rest)) inside
    fun d head => by cases head; decide
  obtain ⟨frontPlaces, backPlaces⟩ := Text.takeWhile_front rest behind stop
  unfold numberLexeme
  simp only [front, back, frontPlaces, backPlaces, List.cons_append, value]

theorem nextLexeme_digit {position : Nat} {c : Char} {rest : List Char} (h : c.isDigit = true) :
    nextLexeme position c rest = numberLexeme c rest := by
  obtain ⟨notWhite, dash, slash, single, double, back⟩ := digit_first h
  simp [nextLexeme, notWhite, dash, slash, single, double, back, h]

theorem nextLexeme_word {position : Nat} {c : Char} {rest : List Char}
    (h : beginsWord c = true) : nextLexeme position c rest = .ok (wordLexeme c rest) := by
  obtain ⟨notWhite, dash, slash, single, double, back, notDigit⟩ := word_first h
  simp [nextLexeme, notWhite, dash, slash, single, double, back, notDigit, h]

theorem quotedLexeme_doubled {position : Nat} {kind : String → TokenKind} {quote : Char}
    {value rest : List Char} (stop : rest.head? ≠ some quote) :
    quotedLexeme position kind quote (doubled quote value ++ quote :: rest) =
      .ok ⟨some (kind (String.ofList value)),
        Text.byteLength (quote :: (doubled quote value ++ [quote])), rest⟩ := by
  simp only [quotedLexeme, closeQuote?_doubled value stop, Text.byteLength]

/-- A span is taken off wherever its text stands. -/
theorem nextLexeme_of_reads {c : Char} {text rest : List Char} {kind? : Option TokenKind}
    (position : Nat) (h : Reads rest.head? (c :: text) kind?) :
    nextLexeme position c (text ++ rest) = .ok ⟨kind?, Text.byteLength (c :: text), rest⟩ := by
  generalize whole : c :: text = span at h ⊢
  cases h with
  | whiteSpace white =>
    cases whole
    simp [nextLexeme, white, Text.byteLength]
  | @lineComment body inside stop =>
    cases whole
    have notWhite : Unicode.isWhiteSpace '-' = false := by decide
    have line : ∀ d ∈ body, (d != '\n') = true := by
      intro d member
      have different : d ≠ '\n' := by rintro rfl; exact inside member
      simpa using different
    obtain ⟨front, back⟩ := Text.takeWhile_front rest line fun d head => by simp [stop d head]
    simp [nextLexeme, notWhite, front, back, Text.byteLength]
  | @blockComment body inside =>
    cases whole
    have notWhite : Unicode.isWhiteSpace '/' = false := by decide
    have closes := closeComment?_append rest inside
    have sizes : '/'.utf8Size + '*'.utf8Size = 2 := by decide
    simp [nextLexeme, notWhite, closes, Text.byteLength, ← Nat.add_assoc, sizes]
  | string stop =>
    cases whole
    have notWhite : Unicode.isWhiteSpace '\'' = false := by decide
    simpa [nextLexeme, notWhite] using quotedLexeme_doubled stop
  | identifier sign stop =>
    cases whole
    rcases sign with rfl | rfl
    · have notWhite : Unicode.isWhiteSpace '"' = false := by decide
      simpa [nextLexeme, notWhite] using quotedLexeme_doubled stop
    · have notWhite : Unicode.isWhiteSpace '\x60' = false := by decide
      simpa [nextLexeme, notWhite] using quotedLexeme_doubled stop
  | whole first inside stop value =>
    cases whole
    rw [nextLexeme_digit first]
    exact numberLexeme_digits inside stop value
  | fraction first inside behind stop value =>
    cases whole
    rw [nextLexeme_digit first, List.append_assoc, List.cons_append]
    exact numberLexeme_places inside behind stop value
  | word first inside stop =>
    cases whole
    obtain ⟨front, back⟩ := Text.takeWhile_front rest inside stop
    rw [nextLexeme_word first, wordLexeme, front, back]
    rfl
  | sign notWhite notQuote notDigit notWord notComment notBlock =>
    cases whole
    simp only [nextLexeme, List.nil_append, notWhite, notQuote, notDigit, notWord, or_self,
      if_false, Bool.false_eq_true]
    rw [if_neg fun dashes => notComment dashes.1 dashes.2,
      if_neg fun opens => notBlock opens.1 opens.2]
    rfl

/-- A step of the lexer succeeds exactly on a span at the front of the text. -/
theorem nextLexeme_eq_ok_iff {position : Nat} {c : Char} {rest : List Char} {lexeme : Lexeme} :
    nextLexeme position c rest = .ok lexeme ↔ TakesOff (c :: rest) lexeme := by
  refine ⟨takesOff_nextLexeme, ?_⟩
  rintro ⟨text, whole, length, reads⟩
  cases text with
  | nil => cases reads
  | cons d text =>
    obtain ⟨rfl, rfl⟩ : c = d ∧ rest = text ++ lexeme.rest := by simpa using whole
    rw [nextLexeme_of_reads position reads, ← length]

end SqlGrader.Lexer
