import Harvest.Proofs.XPath.ParserRules
import Mathlib.Data.List.TakeWhile

/-!
Texts that begin with the tokens of another.

A token is read in the light of what follows it, so a text cannot be cut off behind a token and go
on in any way: a name before a parenthesis is a function. But this is all that matters, and it is
the first character that is not blank that does. Tokens spelled one after the other with a blank
between any two are read again as they were, and can be continued by other tokens.
-/

namespace Harvest.XPath

open Harvest.Text

/-- The first character that is not blank. -/
def ahead (cs : List Char) : Option Char := (cs.dropWhile isBlank).head?

/-- Whether the token is read as this one where the character is the next that is not blank. -/
def Token.Before (next : Option Char) : Token → Prop
  | .functionName _ | .nodeType _ => next = some '('
  | .name _ => next ≠ some '(' ∧ next ≠ some ':'
  | _ => True

/-! The parts of a token. -/

theorem numberPart_append_blank (seenPoint : Bool) (cs v : List Char) :
    numberPart seenPoint (numberPart seenPoint cs ++ ' ' :: v) = numberPart seenPoint cs := by
  induction cs generalizing seenPoint with
  | nil => cases seenPoint <;> rfl
  | cons c cs ih =>
      rw [numberPart]
      split
      · next hdigit => rw [List.cons_append, numberPart, if_pos hdigit, ih]
      · next hdigit =>
        split
        · next hpoint => rw [List.cons_append, numberPart, if_neg hdigit, if_pos hpoint, ih]
        · cases seenPoint <;> rfl

/-- The second part of a qualified name with the colon before it. -/
def qualifiedPart : List Char → List Char
  | ':' :: '*' :: _ => [':', '*']
  | ':' :: c :: cs => if isNameStart c then ':' :: (c :: cs).takeWhile isNameChar else []
  | _ => []

theorem namePart_eq (cs : List Char) : namePart cs =
    cs.takeWhile isNameChar ++ qualifiedPart (cs.drop (cs.takeWhile isNameChar).length) := by
  unfold namePart
  dsimp only
  generalize cs.drop (cs.takeWhile isNameChar).length = rest
  split
  · rfl
  · next c u hstar =>
    rw [qualifiedPart.eq_2 _ _ hstar]
    split
    · rfl
    · rw [List.append_nil]
  · next hstar hname => rw [qualifiedPart.eq_3 _ hstar hname, List.append_nil]

theorem qualifiedPart_cases (cs : List Char) : qualifiedPart cs = [] ∨
    qualifiedPart cs = [':', '*'] ∨ ∃ c u, isNameStart c = true ∧ c ≠ '*' ∧
      qualifiedPart cs = ':' :: (c :: u).takeWhile isNameChar := by
  unfold qualifiedPart
  split
  · exact .inr (.inl rfl)
  · next c u hstar =>
    split
    · next hstart => exact .inr (.inr ⟨c, u, hstart, hstar, rfl⟩)
    · exact .inl rfl
  · exact .inl rfl

/-- What neither continues a name nor joins another one to it. -/
structure EndsName (rest : List Char) : Prop where
  char : ∀ c ∈ rest.head?, isNameChar c = false
  colon : qualifiedPart rest = []

theorem endsName_blank (v : List Char) : EndsName (' ' :: v) :=
  ⟨by rintro _ ⟨⟩; decide, rfl⟩

theorem endsName_axis (v : List Char) : EndsName (':' :: ':' :: v) :=
  ⟨by rintro _ ⟨⟩; decide, rfl⟩

theorem endsName_paren (v : List Char) : EndsName ('(' :: v) :=
  ⟨by rintro _ ⟨⟩; decide, rfl⟩

theorem takeWhile_append_of_head {p : Char → Bool} {cs rest : List Char}
    (h : ∀ c ∈ rest.head?, p c = false) :
    (cs.takeWhile p ++ rest).takeWhile p = cs.takeWhile p := by
  rw [List.takeWhile_append_of_pos fun c hc => List.mem_takeWhile_imp hc]
  cases rest with
  | nil => exact List.append_nil _
  | cons c rest =>
      rw [List.takeWhile_cons, h c rfl]
      exact List.append_nil _

theorem isNameChar_of_isNameStart {c : Char} (h : isNameStart c = true) : isNameChar c = true := by
  unfold isNameStart at h
  unfold isNameChar isAlphanumeric
  obtain h | h := Bool.or_eq_true_iff.mp h <;> simp [h]

theorem qualifiedPart_append (cs : List Char) {rest : List Char} (h : EndsName rest) :
    qualifiedPart (qualifiedPart cs ++ rest) = qualifiedPart cs := by
  obtain hnone | hstar | ⟨c, u, hstart, hne, hname⟩ := qualifiedPart_cases cs
  · rw [hnone]
    exact h.colon
  · rw [hstar]
    rfl
  · have hcons : (c :: u).takeWhile isNameChar = c :: u.takeWhile isNameChar := by
      rw [List.takeWhile_cons, if_pos (isNameChar_of_isNameStart hstart)]
    have htake : ((c :: u).takeWhile isNameChar ++ rest).takeWhile isNameChar =
        (c :: u).takeWhile isNameChar := takeWhile_append_of_head h.char
    rw [hname]
    rw [hcons] at htake ⊢
    show qualifiedPart (':' :: c :: (u.takeWhile isNameChar ++ rest)) = _
    rw [qualifiedPart.eq_2 _ _ hne, if_pos hstart]
    exact congrArg (':' :: ·) htake

theorem head?_qualifiedPart_append {cs rest : List Char} (h : EndsName rest) :
    ∀ c ∈ (qualifiedPart cs ++ rest).head?, isNameChar c = false := by
  obtain hnone | hstar | ⟨c, u, -, -, hname⟩ := qualifiedPart_cases cs
  · rw [hnone]
    exact h.char
  · rw [hstar]
    rintro _ ⟨⟩
    decide
  · rw [hname]
    rintro _ ⟨⟩
    decide

/-- A name is read again before anything that ends it. -/
theorem namePart_append (cs : List Char) {rest : List Char} (h : EndsName rest) :
    namePart (namePart cs ++ rest) = namePart cs := by
  rw [namePart_eq cs, List.append_assoc, namePart_eq, takeWhile_append_of_head
    (head?_qualifiedPart_append h), List.drop_left, qualifiedPart_append _ h]

theorem namePart_cons {c : Char} (h : isNameStart c = true) (cs : List Char) :
    ∃ u, namePart (c :: cs) = c :: u := by
  rw [namePart_eq, List.takeWhile_cons, if_pos (isNameChar_of_isNameStart h)]
  exact ⟨_, rfl⟩

theorem drop_takeWhile_length (p : Char → Bool) (cs : List Char) :
    cs.drop (cs.takeWhile p).length = cs.dropWhile p := by
  have happend := List.takeWhile_append_dropWhile (p := p) (l := cs)
  calc cs.drop (cs.takeWhile p).length
      = (cs.takeWhile p ++ cs.dropWhile p).drop (cs.takeWhile p).length := by rw [happend]
    _ = cs.dropWhile p := List.drop_left

theorem classifyName_eq (name : String) (after : List Char) : classifyName name after =
    match after.dropWhile isBlank with
    | ':' :: ':' :: _ => (.axisName name, (after.takeWhile isBlank).length + 2)
    | '(' :: _ => (if isNodeTypeName name then .nodeType name else .functionName name, 0)
    | _ => (.name name, 0) := by
  rw [← drop_takeWhile_length]
  rfl

theorem classifyName_axis (name : String) (v : List Char) :
    classifyName name (':' :: ':' :: v) = (.axisName name, 2) := rfl

theorem classifyName_paren {name : String} {v : List Char} (h : ahead v = some '(') :
    classifyName name v =
      (if isNodeTypeName name then .nodeType name else .functionName name, 0) := by
  obtain ⟨w, hw⟩ := List.head?_eq_some_iff.mp h
  rw [classifyName_eq, hw]
  rfl

theorem classifyName_name {name : String} {v : List Char} (hparen : ahead v ≠ some '(')
    (hcolon : ahead v ≠ some ':') : classifyName name v = (.name name, 0) := by
  rw [classifyName_eq]
  unfold ahead at hparen hcolon
  split
  · next w hw =>
    rw [hw] at hcolon
    exact absurd rfl hcolon
  · next w hw =>
    rw [hw] at hparen
    exact absurd rfl hparen
  · rfl

theorem classifyName_cases (name : String) (after : List Char) :
    (∃ n, classifyName name after = (.axisName name, n)) ∨
    (ahead after = some '(' ∧ classifyName name after =
      (if isNodeTypeName name then .nodeType name else .functionName name, 0)) ∨
    (ahead after ≠ some '(' ∧ classifyName name after = (.name name, 0)) := by
  rw [classifyName_eq]
  unfold ahead
  split
  · exact .inl ⟨_, rfl⟩
  · next w hw => exact .inr (.inl ⟨by rw [hw]; rfl, rfl⟩)
  · next hw =>
    refine .inr (.inr ⟨fun hparen => ?_, rfl⟩)
    obtain ⟨w, hparen⟩ := List.head?_eq_some_iff.mp hparen
    exact hw w hparen

/-! Each token by itself. -/

/-- Characters that are read as a token if this may stand before what comes next. -/
def Spelling (afterOperand : Bool) (c : Char) (cs : List Char) (t : Token) : Prop :=
  ∀ v, t.Before (ahead v) → readToken afterOperand c (cs ++ ' ' :: v) = .ok (t, cs.length)

/-- The token that a name stands for, with the number of characters behind its first one. -/
def readName (afterOperand : Bool) (chars after : List Char) :
    Except SyntaxProblem (Token × Nat) :=
  if afterOperand then
    match operatorName? (String.ofList chars) with
    | some op => .ok (op, chars.length - 1)
    | none => .error (.expectedOperator (String.ofList chars))
  else
    let (token, more) := classifyName (String.ofList chars) after
    .ok (token, chars.length - 1 + more)

def readWord (afterOperand : Bool) (c : Char) (cs : List Char) :
    Except SyntaxProblem (Token × Nat) :=
  if c == '"' || c == '\'' then
    let content := cs.takeWhile (· != c)
    if content.length < cs.length then .ok (.literal (String.ofList content), content.length + 1)
    else .error .unterminatedLiteral
  else if isAsciiDigit c then
    let digits := numberPart false (c :: cs)
    .ok (.number (Decimal.readDigits digits), digits.length - 1)
  else if isNameStart c then
    let chars := namePart (c :: cs)
    readName afterOperand chars (cs.drop (chars.length - 1))
  else .error (.unexpectedCharacter c)

def beginsWord (c : Char) : Bool := c == '"' || c == '\'' || isAsciiDigit c || isNameStart c

section ReadToken

variable {afterOperand : Bool} {c : Char} {cs u rest : List Char} {t : Token} {taken : Nat}

theorem readToken_word (hc : beginsWord c = true) :
    readToken afterOperand c cs = readWord afterOperand c cs := by
  unfold readToken
  split
  all_goals first | rfl | exact absurd hc (by decide)

theorem spelling_literal (hc : (c == '"' || c == '\'') = true) :
    Spelling afterOperand c (cs.takeWhile (· != c) ++ [c])
      (.literal (String.ofList (cs.takeWhile (· != c)))) := by
  intro v _
  have hword : beginsWord c = true := by simp [beginsWord, hc]
  have htake : (cs.takeWhile (· != c) ++ c :: ' ' :: v).takeWhile (· != c) =
      cs.takeWhile (· != c) := takeWhile_append_of_head (by simp)
  rw [readToken_word hword, readWord, if_pos hc, List.append_assoc, List.singleton_append]
  dsimp only
  rw [htake, if_pos (by simp)]
  simp

theorem spelling_number (hquote : (c == '"' || c == '\'') = false) (hc : isAsciiDigit c = true) :
    Spelling afterOperand c (numberPart false cs)
      (.number (Decimal.readDigits (numberPart false (c :: cs)))) := by
  intro v _
  have hword : beginsWord c = true := by simp [beginsWord, hc]
  have hpart (cs : List Char) : numberPart false (c :: cs) = c :: numberPart false cs := by
    rw [numberPart, if_pos hc]
  rw [readToken_word hword, readWord, if_neg (Bool.eq_false_iff.mp hquote), if_pos hc]
  dsimp only
  rw [hpart, hpart, numberPart_append_blank]
  rfl

theorem readToken_point (hc : isAsciiDigit c = true) : readToken afterOperand '.' (c :: cs) =
    .ok (.number (Decimal.readDigits ('.' :: numberPart true (c :: cs))),
      (numberPart true (c :: cs)).length) := by
  have hdot : c ≠ '.' := by
    rintro rfl
    exact absurd hc (by decide)
  unfold readToken
  split
  case h_4 d u _ heq =>
    cases heq
    rw [if_pos hc]
    rfl
  all_goals simp_all

theorem spelling_point (hc : isAsciiDigit c = true) :
    Spelling afterOperand '.' (numberPart true (c :: cs))
      (.number (Decimal.readDigits ('.' :: numberPart true (c :: cs)))) := by
  intro v _
  have hagain := numberPart_append_blank true (c :: cs) v
  have hpart : numberPart true (c :: cs) = c :: numberPart true cs := by
    rw [numberPart, if_pos hc]
  rw [hpart, List.cons_append] at hagain ⊢
  rw [readToken_point hc, hagain]

/-- A name with what ends it is read as this name. -/
theorem readWord_append (hstart : isNameStart c = true) (hquote : (c == '"' || c == '\'') = false)
    (hdigit : isAsciiDigit c = false) (hname : namePart (c :: cs) = c :: u)
    (hrest : EndsName rest) :
    readToken afterOperand c (u ++ rest) = readName afterOperand (c :: u) rest := by
  have hword : beginsWord c = true := by simp [beginsWord, hstart]
  have hpart : namePart (c :: (u ++ rest)) = c :: u := by
    rw [← hname, ← namePart_append (c :: cs) hrest, hname, List.cons_append]
  rw [readToken_word hword, readWord, if_neg (Bool.eq_false_iff.mp hquote),
    if_neg (Bool.eq_false_iff.mp hdigit), if_pos hstart]
  dsimp only
  rw [hpart, List.length_cons, Nat.add_sub_cancel, List.drop_left]

/-- A name before an opening parenthesis is read as that of a function, unless it is that of a kind
of nodes. -/
theorem readToken_call (hstart : isNameStart c = true) (hquote : (c == '"' || c == '\'') = false)
    (hdigit : isAsciiDigit c = false) (hname : namePart (c :: u) = c :: u)
    (htype : isNodeTypeName (String.ofList (c :: u)) = false) (v : List Char) :
    readToken false c (u ++ '(' :: v) =
      .ok (.functionName (String.ofList (c :: u)), u.length) := by
  rw [readWord_append hstart hquote hdigit hname (endsName_paren v), readName,
    if_neg Bool.false_ne_true, classifyName_paren rfl, if_neg (Bool.eq_false_iff.mp htype)]
  rfl

theorem spelling_name {after : List Char} (hstart : isNameStart c = true)
    (hquote : (c == '"' || c == '\'') = false)
    (hdigit : isAsciiDigit c = false) (hname : namePart (c :: cs) = c :: u)
    (h : readName afterOperand (c :: u) after = .ok (t, taken)) :
    ∃ cs', Spelling afterOperand c cs' t := by
  have hread {rest : List Char} (hrest : EndsName rest) :
      readToken afterOperand c (u ++ rest) = readName afterOperand (c :: u) rest :=
    readWord_append hstart hquote hdigit hname hrest
  cases afterOperand with
  | true =>
      refine ⟨u, fun v _ => ?_⟩
      rw [hread (endsName_blank v)]
      rw [readName, if_pos rfl] at h ⊢
      cases hop : operatorName? (String.ofList (c :: u)) with
      | none =>
          rw [hop] at h
          cases h
      | some op =>
          rw [hop] at h
          cases h
          rfl
  | false =>
      rw [readName, if_neg Bool.false_ne_true] at h
      obtain ⟨n, hclass⟩ | ⟨-, hclass⟩ | ⟨-, hclass⟩ :=
        classifyName_cases (String.ofList (c :: u)) after
      · rw [hclass] at h
        cases h
        refine ⟨u ++ [':', ':'], fun v _ => ?_⟩
        rw [List.append_assoc]
        refine (hread (endsName_axis (' ' :: v))).trans ?_
        rw [readName, if_neg Bool.false_ne_true, classifyName_axis, List.length_append]
        rfl
      · rw [hclass] at h
        cases h
        refine ⟨u, fun v hv => ?_⟩
        have hahead : ahead (' ' :: v) = some '(' := by
          split at hv
          · exact hv
          · exact hv
        rw [hread (endsName_blank v), readName, if_neg Bool.false_ne_true,
          classifyName_paren hahead]
        rfl
      · rw [hclass] at h
        cases h
        refine ⟨u, fun v hv => ?_⟩
        rw [hread (endsName_blank v), readName, if_neg Bool.false_ne_true,
          classifyName_name (v := ' ' :: v) hv.1 hv.2]
        rfl

theorem before_operator {name : String} {op : Token} (h : operatorName? name = some op)
    (next : Option Char) : op.Before next := by
  unfold operatorName? at h
  split at h <;> cases h <;> trivial

/-- A token is a name, or it does not depend on what comes next. -/
theorem readToken_cases (h : readToken afterOperand c cs = .ok (t, taken)) :
    (∃ cs', Spelling afterOperand c cs' t ∧ ∀ next, t.Before next) ∨
    ∃ u, isNameStart c = true ∧ (c == '"' || c == '\'') = false ∧ isAsciiDigit c = false ∧
      namePart (c :: cs) = c :: u ∧
      readName afterOperand (c :: u) (cs.drop u.length) = .ok (t, taken) := by
  by_cases hword : beginsWord c = true
  · rw [readToken_word hword] at h
    unfold readWord at h
    split at h
    · next hquote =>
      dsimp only at h
      split at h
      · cases h
        exact .inl ⟨_, spelling_literal hquote, fun _ => trivial⟩
      · cases h
    · next hquote =>
      have hquote := Bool.eq_false_iff.mpr hquote
      split at h
      · next hdigit =>
        cases h
        exact .inl ⟨_, spelling_number hquote hdigit, fun _ => trivial⟩
      · next hdigit =>
        split at h
        · next hstart =>
          obtain ⟨u, hname⟩ := namePart_cons hstart cs
          dsimp only at h
          rw [hname] at h
          exact .inr ⟨u, hstart, hquote, Bool.eq_false_iff.mpr hdigit, hname, h⟩
        · cases h
  · have hnone : ((c == '"' || c == '\'') = false ∧ isAsciiDigit c = false) ∧
        isNameStart c = false := by
      simpa only [beginsWord, Bool.not_eq_true, Bool.or_eq_false_iff] using hword
    refine .inl ?_
    unfold readToken at h
    split at h
    all_goals try (cases h; exact ⟨[], fun _ _ => rfl, fun _ => trivial⟩)
    · cases h
      exact ⟨['/'], fun _ _ => rfl, fun _ => trivial⟩
    · cases h
      exact ⟨['.'], fun _ _ => rfl, fun _ => trivial⟩
    · split at h
      · next hdigit =>
        cases h
        exact ⟨_, spelling_point hdigit, fun _ => trivial⟩
      · cases h
        exact ⟨[], fun _ _ => rfl, fun _ => trivial⟩
    · cases h
      exact ⟨['='], fun _ _ => rfl, fun _ => trivial⟩
    · cases h
      exact ⟨['='], fun _ _ => rfl, fun _ => trivial⟩
    · cases h
      exact ⟨['='], fun _ _ => rfl, fun _ => trivial⟩
    · cases h
      refine ⟨[], fun _ _ => rfl, fun _ => ?_⟩
      split <;> trivial
    · rw [hnone.1.1, hnone.1.2, hnone.2] at h
      cases h

theorem exists_spelling (h : readToken afterOperand c cs = .ok (t, taken)) :
    ∃ cs', Spelling afterOperand c cs' t := by
  obtain ⟨cs', hspelling, -⟩ | ⟨u, hstart, hquote, hdigit, hname, hread⟩ := readToken_cases h
  · exact ⟨cs', hspelling⟩
  · exact spelling_name hstart hquote hdigit hname hread

/-- What comes next in a text is what the tokens of this text ask for. -/
theorem before_of_readToken (h : readToken afterOperand c cs = .ok (t, taken))
    (hcolon : ahead (cs.drop taken) ≠ some ':') : t.Before (ahead (cs.drop taken)) := by
  obtain ⟨-, -, hbefore⟩ | ⟨u, -, -, -, -, hread⟩ := readToken_cases h
  · exact hbefore _
  · cases afterOperand with
    | true =>
        rw [readName, if_pos rfl] at hread
        split at hread
        · next hop =>
          cases hread
          exact before_operator hop _
        · cases hread
    | false =>
        rw [readName, if_neg Bool.false_ne_true] at hread
        obtain ⟨n, hclass⟩ | ⟨hparen, hclass⟩ | ⟨hparen, hclass⟩ :=
          classifyName_cases (String.ofList (c :: u)) (cs.drop u.length)
        · rw [hclass] at hread
          cases hread
          trivial
        · rw [hclass] at hread
          cases hread
          split
          · exact hparen
          · exact hparen
        · rw [hclass] at hread
          cases hread
          exact ⟨hparen, hcolon⟩

end ReadToken

/-! The tokens of a text. -/

/-- The text has the tokens, wherever it begins. -/
def Spells (afterOperand : Bool) (cs : List Char) (us : List Token) : Prop :=
  ∀ offset, ∃ ts, tokensFrom afterOperand offset cs = .ok ts ∧ tokens ts = us

section Spells

variable {afterOperand : Bool} {offset : Nat} {c : Char} {cs v : List Char} {t : Token}
  {us : List Token} {ts pre post : List Placed}

theorem spells_nil (afterOperand : Bool) : Spells afterOperand [] [] :=
  fun _ => ⟨[], by rw [tokensFrom], rfl⟩

theorem tokensFrom_cons {taken : Nat} (hblank : isBlank c = false)
    (hread : readToken afterOperand c cs = .ok (t, taken))
    (hrest : tokensFrom t.endsOperand (offset + byteSize (c :: cs.take taken)) (cs.drop taken) =
      .ok ts) : tokensFrom afterOperand offset (c :: cs) = .ok (⟨t, offset⟩ :: ts) := by
  rw [tokensFrom, if_neg (Bool.eq_false_iff.mp hblank), hread]
  dsimp only
  rw [hrest]

theorem Spells.cons (hblank : isBlank c = false) (hspelling : Spelling afterOperand c cs t)
    (hbefore : t.Before (ahead v)) (h : Spells t.endsOperand v us) :
    Spells afterOperand (c :: cs ++ ' ' :: v) (t :: us) := by
  intro offset
  obtain ⟨ts, hts, rfl⟩ := h (offset + byteSize (c :: cs) + ' '.utf8Size)
  refine ⟨⟨t, offset⟩ :: ts, ?_, rfl⟩
  have hgap : tokensFrom t.endsOperand (offset + byteSize (c :: cs)) (' ' :: v) = .ok ts := by
    rw [tokensFrom, if_pos (by decide), hts]
  rw [List.cons_append, tokensFrom, if_neg (by rw [hblank]; exact Bool.false_ne_true),
    hspelling v hbefore]
  dsimp only
  rw [List.take_left, List.drop_left, hgap]

/-- No token begins with a colon. -/
theorem ahead_ne_colon (h : tokensFrom afterOperand offset cs = .ok ts) :
    ahead cs ≠ some ':' := by
  induction cs generalizing offset with
  | nil => exact nofun
  | cons c cs ih =>
      rw [tokensFrom] at h
      rw [ahead, List.dropWhile_cons]
      split
      · next hblank =>
        rw [if_pos hblank] at h
        exact ih h
      · next hblank =>
        rw [if_neg hblank] at h
        rintro ⟨⟩
        cases h

theorem ahead_cons (hblank : isBlank c = false) (cs : List Char) : ahead (c :: cs) = some c := by
  rw [ahead, List.dropWhile_cons, hblank]
  rfl

end Spells

/-- The first tokens of a text are the first tokens of another text, which goes on with others, if
the last one of them may stand before these. -/
theorem exists_spells {afterOperand : Bool} {offset : Nat} {cs v : List Char} {us : List Token}
    {pre post : List Placed} (h : tokensFrom afterOperand offset cs = .ok (pre ++ post))
    (hus : Spells ((tokens pre).getLast?.elim afterOperand Token.endsOperand) v us)
    (hbefore : ∀ t ∈ (tokens pre).getLast?, t.Before (ahead v)) :
    ∃ w, Spells afterOperand w (tokens pre ++ us) ∧
      (pre = [] ∧ w = v ∨ ahead w = ahead cs) := by
  match pre, cs with
  | [], _ => exact ⟨v, hus, .inl ⟨rfl, rfl⟩⟩
  | p :: pre, [] =>
      rw [tokensFrom] at h
      cases h
  | p :: pre, c :: cs =>
      rw [tokensFrom] at h
      split at h
      · next hblank =>
        -- A blank is left out, which changes nothing about the character ahead.
        obtain ⟨w, hw, ⟨hpre, -⟩ | hahead⟩ := exists_spells h hus hbefore
        · cases hpre
        · refine ⟨w, hw, .inr (hahead.trans ?_)⟩
          rw [ahead, ahead, List.dropWhile_cons, if_pos hblank]
      · next hblank =>
        have hblank := Bool.eq_false_iff.mpr hblank
        split at h
        · cases h
        · next t taken hread =>
          split at h
          · cases h
          · next rest hrest =>
            cases h
            rw [tokens_cons, List.getLast?_cons] at hus hbefore
            obtain ⟨cs', hspelling⟩ := exists_spelling hread
            obtain ⟨w, hw, hahead⟩ := exists_spells (v := v) hrest
              (by cases hlast : (tokens pre).getLast? <;> simpa [hlast] using hus)
              (fun u hu => hbefore u (by rw [hu]; rfl))
            -- Behind the token comes the new text, or what came there before.
            have hnext : t.Before (ahead w) := by
              obtain ⟨rfl, rfl⟩ | hahead := hahead
              · exact hbefore t rfl
              · rw [hahead]
                exact before_of_readToken hread (ahead_ne_colon hrest)
            refine ⟨c :: cs' ++ ' ' :: w, hw.cons hblank hspelling hnext, .inr ?_⟩
            rw [List.cons_append, ahead_cons hblank, ahead_cons hblank]
  termination_by cs.length

end Harvest.XPath
