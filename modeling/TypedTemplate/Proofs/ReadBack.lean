import Mathlib.Data.List.Chain
import TypedTemplate.Markup.Token
import TypedTemplate.Proofs.DocumentTags
import TypedTemplate.Proofs.Lookup
import TypedTemplate.Proofs.PathText

/-!
# Documents read back

Tokens can be written: a text with its reserved characters escaped, a tag with its name and its
attributes in quotes. Tokens of known elements, of which no two texts stand side by side, are read
back from what is written of them.
-/
namespace TypedTemplate

namespace Reference

theorem escapeChar_cases (c : Char) :
    (c ≠ '&' ∧ escapeChar c = [c]) ∨
      ∃ body, escapeChar c = '&' :: body ∧ ∀ rest, read? (body ++ rest) = some ([c], rest) := by
  by_cases h : c ∈ ['&', '<', '>', '"', '\'']
  · refine .inr ?_
    simp only [List.mem_cons, List.not_mem_nil, or_false] at h
    rcases h with rfl | rfl | rfl | rfl | rfl
    exacts [⟨"amp;", rfl, fun _ => rfl⟩, ⟨"lt;", rfl, fun _ => rfl⟩, ⟨"gt;", rfl, fun _ => rfl⟩,
      ⟨"quot;", rfl, fun _ => rfl⟩, ⟨"#x27;", rfl, fun _ => rfl⟩]
  · simp only [List.mem_cons, List.not_mem_nil, or_false, not_or] at h
    obtain ⟨hamp, hlt, hgt, hquote, hapostrophe⟩ := h
    exact .inl ⟨hamp, by simp [escapeChar, hamp, hlt, hgt, hquote, hapostrophe]⟩

theorem escape_cons (c : Char) (t : Text) : escape (c :: t) = escapeChar c ++ escape t := by
  rw [escape, List.flatMap_cons]
  rfl

theorem expandFrom_escape (t : Text) {fuel : Nat} (h : (escape t).length ≤ fuel) :
    expandFrom fuel (escape t) = t := by
  induction t generalizing fuel with
  | nil => cases fuel <;> rfl
  | cons c t ih =>
    rw [escape_cons] at h ⊢
    rcases escapeChar_cases c with ⟨hamp, hc⟩ | ⟨body, hc, hread⟩
    · rw [hc, List.singleton_append] at h ⊢
      obtain ⟨fuel, rfl⟩ : ∃ n, fuel = n + 1 := ⟨fuel - 1, by simp at h; omega⟩
      have hrest : (escape t).length ≤ fuel := by simpa using h
      rw [expandFrom, if_neg (by simpa using hamp), ih hrest]
    -- A reference takes one step of the fuel and has at least one character, so enough is left.
    · rw [hc, List.cons_append] at h ⊢
      obtain ⟨fuel, rfl⟩ : ∃ n, fuel = n + 1 := ⟨fuel - 1, by simp at h; omega⟩
      have hrest : (escape t).length ≤ fuel := by
        simp only [List.length_cons, List.length_append] at h
        omega
      rw [expandFrom, if_pos (by rfl), hread]
      exact congrArg (c :: ·) (ih hrest)

theorem escape_of_not_mem {t : Text} (h : '&' ∉ escape t) : escape t = t := by
  induction t with
  | nil => rfl
  | cons c t ih =>
    rw [escape_cons] at h ⊢
    rcases escapeChar_cases c with ⟨-, hc⟩ | ⟨body, hc, -⟩
    · rw [hc] at h ⊢
      exact congrArg (c :: ·) (ih fun ht => h (List.mem_append_right _ ht))
    · rw [hc] at h
      exact absurd List.mem_cons_self h

theorem expand_escape (t : Text) : expand (escape t) = t := by
  by_cases hamp : '&' ∈ escape t
  · rw [expand, if_pos (by simpa using hamp)]
    exact expandFrom_escape t (Nat.le_refl _)
  · rw [expand_of_not_mem hamp]
    exact escape_of_not_mem hamp

theorem escape_ne_nil {t : Text} (h : t ≠ []) : escape t ≠ [] := by
  intro hnone
  have hback := expand_escape t
  rw [hnone] at hback
  exact h hback.symm

end Reference

namespace Text

def smallLetters : Text := "abcdefghijklmnopqrstuvwxyz"

/-- Whether a text is a word in small letters, as the names of known elements and attributes
are. -/
structure IsName (name : Text) : Prop where
  ne_nil : name ≠ []
  small : ∀ c ∈ name, c ∈ smallLetters

theorem isName_of_known {name : Text} (h : name ∈ Allowed.tags ++ Allowed.attributes) :
    IsName name := by
  -- A test of the letters of each name: a statement over characters would be decided by going
  -- through all of them.
  have hall : (Allowed.tags ++ Allowed.attributes).all (fun name =>
      !name.isEmpty && name.all smallLetters.contains) = true := by decide +kernel
  have hname := List.all_eq_true.1 hall name h
  simp only [Bool.and_eq_true, List.all_eq_true, List.contains_iff_mem] at hname
  exact ⟨by simpa using hname.1, hname.2⟩

theorem lowerAfter_eq_self {t : Text} (h : ∀ c ∈ t, c ≠ 'Σ' ∧ lowerChar c = [c]) (before : Text) :
    lowerAfter before t = t := by
  induction t generalizing before with
  | nil => rfl
  | cons c rest ih =>
    obtain ⟨⟨hsigma, hc⟩, hrest⟩ := List.forall_mem_cons.1 h
    rw [lowerAfter, if_neg (by simpa using hsigma), hc, ih hrest]
    rfl

namespace IsName

variable {name : Text}

theorem lower_eq (h : IsName name) : lower name = name := by
  have hletters : smallLetters.all (fun c => c != 'Σ' && lowerChar c == [c]) = true := by
    decide +kernel
  refine lowerAfter_eq_self (fun c hc => ?_) []
  simpa using List.all_eq_true.1 hletters c (h.small c hc)

/-- A name begins with a letter, which is none of the characters that markup is made of. -/
theorem exists_cons (h : IsName name) :
    ∃ c tail, name = c :: tail ∧ (∀ d ∈ tail, d ∈ smallLetters) ∧ isAsciiLetter c = true ∧
      TypedTemplate.isBlank c = false ∧ c ∉ ['/', '>', '!', '?'] := by
  have hletters : smallLetters.all (fun c => isAsciiLetter c &&
      !TypedTemplate.isBlank c && !(['/', '>', '!', '?'].contains c)) = true := by decide +kernel
  obtain ⟨hne, hsmall⟩ := h
  obtain ⟨c, tail, rfl⟩ := List.exists_cons_of_ne_nil hne
  obtain ⟨hc, htail⟩ := List.forall_mem_cons.1 hsmall
  have hfirst := List.all_eq_true.1 hletters c hc
  simp only [Bool.and_eq_true, Bool.not_eq_true', List.contains_eq_mem, decide_eq_false_iff_not]
    at hfirst
  exact ⟨c, tail, rfl, htail, hfirst.1.1, hfirst.1.2, hfirst.2⟩

theorem close_not_mem (h : IsName name) : '>' ∉ name :=
  fun hm => absurd (h.small '>' hm) (by decide)

end IsName

theorem takeWhile_small {t : Text} (ht : ∀ c ∈ t, c ∈ smallLetters) {p : Char → Bool}
    (hp : ∀ c ∈ smallLetters, p c = true) {stop : Char} (hstop : p stop = false) (rest : Text) :
    (t ++ stop :: rest).takeWhile p = t := by
  rw [List.takeWhile_append_of_pos fun c hc => hp c (ht c hc),
    List.takeWhile_cons_of_neg (by simp [hstop]), List.append_nil]

theorem dropWhile_small {t : Text} (ht : ∀ c ∈ t, c ∈ smallLetters) {p : Char → Bool}
    (hp : ∀ c ∈ smallLetters, p c = true) {stop : Char} (hstop : p stop = false) (rest : Text) :
    (t ++ stop :: rest).dropWhile p = stop :: rest := by
  rw [List.dropWhile_append_of_pos fun c hc => hp c (ht c hc),
    List.dropWhile_cons_of_neg (by simp [hstop])]

end Text

namespace Token

def written : Token → Text
  | .text t => Reference.escape t
  | .start name given _ =>
    Document.startTag name (given.map fun (name, value) => (name, Reference.escape (value.getD [])))
  | .finish name => Document.endTag name
  | .malformed => []

def given (attributes : Keyed Text) : List (Text × Option Text) :=
  attributes.map fun (name, value) => (name, some value)

def writtenAttributes (attributes : Keyed Text) (rest : Text) : Text :=
  attributes.flatMap (fun (name, value) => Document.writeEntry (name, Reference.escape value))
    ++ '>' :: rest

theorem written_start (name : Text) (attributes : Keyed Text) (rest : Text) :
    written (.start name (given attributes) false) ++ rest =
      '<' :: (name ++ writtenAttributes attributes rest) := by
  simp [written, given, Document.startTag, writtenAttributes, List.flatMap_map]

theorem written_finish (name rest : Text) :
    written (.finish name) ++ rest = '<' :: '/' :: (name ++ '>' :: rest) := by
  simp [written, Document.endTag]

theorem dropSeparators_name {name : Text} (h : Text.IsName name) (last : Char) (rest : Text) :
    dropSeparators last (' ' :: (name ++ rest)) = (' ', name ++ rest) := by
  obtain ⟨c, tail, rfl, -, -, hblank, hplain⟩ := h.exists_cons
  simp only [List.mem_cons, not_or] at hplain
  have hskip : dropSeparators last (' ' :: (c :: tail ++ rest)) =
      dropSeparators ' ' (c :: tail ++ rest) := rfl
  rw [hskip, List.cons_append, dropSeparators, if_neg (by simp [hblank, hplain.1])]

theorem readAssignment?_written (value rest : Text) :
    readAssignment? ("=\"" ++ Reference.escape value ++ '"' :: rest) =
      some (Reference.escape value, '"', rest) := by
  have hinert : '"' ∉ Reference.escape value := fun hq =>
    absurd ((Document.isInert_escape value).plain _ hq) (by decide)
  have hread : readAssignment? ("=\"" ++ Reference.escape value ++ '"' :: rest) =
      readValue? ['='] [] ('"' :: (Reference.escape value ++ '"' :: rest)) := rfl
  rw [hread, readValue?, if_pos (by decide), Text.cut_append_self hinert]

theorem readAttribute?_written {name : Text} (h : Text.IsName name) (value rest : Text) :
    readAttribute? ' ' (name ++ ("=\"" ++ Reference.escape value ++ '"' :: rest)) =
      some ((name, some value), dropSeparators '"' rest) := by
  have hpart : ∀ c ∈ Text.smallLetters,
      (!isBlank c && c != '/' && c != '=' && c != '>') = true :=
    List.all_eq_true.1 (by decide +kernel)
  have hlower := h.lower_eq
  obtain ⟨c, tail, rfl, htail, -, hblank, hplain⟩ := h.exists_cons
  simp only [List.mem_cons, not_or] at hplain
  have hstop : (!isBlank '=' && '=' != '/' && '=' != '=' && '=' != '>') = false := by decide
  have hbegins : (!(' ' == '"' || ' ' == '\'' || ' ' == '/' || isBlank ' ') || isBlank c
      || c == '/' || c == '>') = false := by
    have hspace : isBlank ' ' = true := rfl
    simp [hspace, hblank, hplain.1, hplain.2.1]
  have hread := readAssignment?_written value rest
  change readAttribute? ' ' (c :: (tail ++ '=' :: _)) = _
  change readAssignment? ('=' :: _) = _ at hread
  rw [readAttribute?, hbegins]
  simp only [Bool.false_eq_true, if_false, Text.takeWhile_small htail hpart hstop,
    Text.dropWhile_small htail hpart hstop, hread, hlower, Reference.expand_escape]

theorem writtenAttributes_cons (name value : Text) (others : Keyed Text) (rest : Text) :
    writtenAttributes ((name, value) :: others) rest =
      ' ' :: (name ++
        ("=\"" ++ Reference.escape value ++ '"' :: writtenAttributes others rest)) := by
  simp [writtenAttributes, Document.writeEntry]

theorem readAttributes_written {attributes : Keyed Text}
    (h : ∀ name ∈ Keyed.keys attributes, Text.IsName name) (rest : Text) {fuel : Nat}
    (hfuel : attributes.length ≤ fuel) (last : Char) :
    readAttributes fuel (dropSeparators last (writtenAttributes attributes rest)).1
      (dropSeparators last (writtenAttributes attributes rest)).2 =
        (given attributes, '>' :: rest) := by
  induction attributes generalizing fuel last with
  | nil =>
    have hnone : readAttribute? last ('>' :: rest) = none := by simp [readAttribute?]
    change readAttributes fuel last ('>' :: rest) = ([], '>' :: rest)
    cases fuel with
    | zero => rfl
    | succ fuel => rw [readAttributes, hnone]
  | cons entry others ih =>
    obtain ⟨name, value⟩ := entry
    obtain ⟨hname, hothers⟩ := List.forall_mem_cons.1 h
    obtain ⟨fuel, rfl⟩ : ∃ n, fuel = n + 1 := ⟨fuel - 1, by simp at hfuel; omega⟩
    have hrest := ih hothers (Nat.le_of_succ_le_succ hfuel) '"'
    rw [writtenAttributes_cons, dropSeparators_name hname, readAttributes,
      readAttribute?_written hname]
    dsimp only
    rw [hrest]
    rfl

theorem length_le_writtenAttributes (attributes : Keyed Text) (rest : Text) :
    attributes.length ≤ (writtenAttributes attributes rest).length := by
  induction attributes with
  | nil => exact Nat.zero_le _
  | cons entry others ih =>
    rw [writtenAttributes_cons]
    simp only [List.length_cons, List.length_append]
    omega

theorem exists_writtenAttributes_eq (attributes : Keyed Text) (rest : Text) :
    ∃ stop more, isNameChar stop = false ∧ writtenAttributes attributes rest = stop :: more := by
  cases attributes with
  | nil => exact ⟨'>', rest, rfl, rfl⟩
  | cons entry others => exact ⟨' ', _, rfl, writtenAttributes_cons entry.1 entry.2 others rest⟩

theorem readStart_written {name : Text} (hn : name ∈ Allowed.tags) {attributes : Keyed Text}
    (ha : ∀ name ∈ Keyed.keys attributes, Text.IsName name) (rest : Text) :
    readStart (name ++ writtenAttributes attributes rest) =
      ([.start name (given attributes) false], rest) := by
  have hname := Text.isName_of_known (List.mem_append_left _ hn)
  have hplain : ∀ name ∈ Allowed.tags, plainTextNames.contains name = false := by decide
  have hpart : ∀ c ∈ Text.smallLetters, isNameChar c = true :=
    List.all_eq_true.1 (by decide +kernel)
  obtain ⟨stop, more, hstop, heq⟩ := exists_writtenAttributes_eq attributes rest
  have htaken := Text.takeWhile_small hname.small hpart hstop more
  have hdropped := Text.dropWhile_small hname.small hpart hstop more
  rw [← heq] at htaken hdropped
  have hfuel : attributes.length ≤ (name ++ writtenAttributes attributes rest).length := by
    rw [List.length_append]
    exact Nat.le_add_left_of_le (length_le_writtenAttributes attributes rest)
  have hread := readAttributes_written ha rest hfuel (lastOr '<' name)
  unfold readStart
  simp only [htaken, hdropped, hread, hname.lower_eq, startTokens, hplain name hn]
  rfl

theorem readFinish_written {name : Text} (hn : name ∈ Allowed.tags) (rest : Text) :
    readFinish (name ++ '>' :: rest) = ([.finish name], rest) := by
  have hname := Text.isName_of_known (List.mem_append_left _ hn)
  have hcut := hname.close_not_mem
  have hlower := hname.lower_eq
  have hpart : ∀ c ∈ Text.smallLetters, isFinishNameChar c = true :=
    List.all_eq_true.1 (by decide +kernel)
  have hstop : isFinishNameChar '>' = false := by decide
  have htaken := Text.takeWhile_small hname.small hpart hstop rest
  have hdropped := Text.dropWhile_small hname.small hpart hstop rest
  have hclose : Text.after? ">" (Text.trimLeft ('>' :: rest)) = some rest := rfl
  obtain ⟨c, tail, rfl, -, hletter, hblank, -⟩ := hname.exists_cons
  have htrim : Text.trimLeft (c :: tail ++ '>' :: rest) = c :: tail ++ '>' :: rest := by
    rw [List.cons_append, Text.trimLeft, List.dropWhile_cons_of_neg (by simp [hblank])]
  have hbegins : (c :: tail ++ '>' :: rest).head?.any isAsciiLetter = true := hletter
  have hproper : readProperFinish? (c :: tail ++ '>' :: rest) = some (c :: tail, rest) := by
    rw [readProperFinish?, htrim, if_pos hbegins, htaken, hdropped, hclose]
    rfl
  rw [readFinish, Text.cut_append_self hcut]
  simp only [hproper, hlower]

/-- A token that documents are written with: a text, or a tag of a known element. -/
inductive IsReadable : Token → Prop
  | text {t : Text} : t ≠ [] → IsReadable (.text t)
  | start {name : Text} {attributes : Keyed Text} : name ∈ Allowed.tags →
      (∀ name ∈ Keyed.keys attributes, Text.IsName name) →
      IsReadable (.start name (given attributes) false)
  | finish {name : Text} : name ∈ Allowed.tags → IsReadable (.finish name)

def isText : Token → Bool
  | .text _ => true
  | _ => false

def AreSpaced (tokens : List Token) : Prop :=
  tokens.IsChain fun first second => first.isText = true → second.isText = false

theorem exists_written_eq {token : Token} (h : token.IsReadable) (ht : token.isText = false) :
    ∃ rest, token.written = '<' :: rest := by
  cases h with
  | text _ => cases ht
  | start _ _ => exact ⟨_, rfl⟩
  | finish _ => exact ⟨_, rfl⟩

theorem written_ne_nil {token : Token} (h : token.IsReadable) : token.written ≠ [] := by
  cases h with
  | text ht => exact Reference.escape_ne_nil ht
  | start _ _ => exact List.cons_ne_nil _ _
  | finish _ => exact List.cons_ne_nil _ _

theorem readMarkup_start {name : Text} (hn : name ∈ Allowed.tags) (rest : Text) :
    readMarkup (name ++ rest) = readStart (name ++ rest) := by
  have hname := Text.isName_of_known (List.mem_append_left _ hn)
  obtain ⟨c, tail, rfl, -, hletter, -, hplain⟩ := hname.exists_cons
  rw [List.cons_append, readMarkup]
  · rw [if_pos hletter]
  all_goals simp_all

/-- A text ends where markup begins: what is written of it holds no bracket. -/
theorem readFrom_text {t : Text} (h : t ≠ []) {rest : Text}
    (hrest : rest = [] ∨ ∃ more, rest = '<' :: more) (fuel : Nat) :
    readFrom (fuel + 1) (Reference.escape t ++ rest) = .text t :: readFrom fuel rest := by
  have hinert : ∀ c ∈ Reference.escape t, (c != '<') = true := by
    intro c hc
    have hplain := (Document.isInert_escape t).plain c hc
    simp only [List.mem_cons, not_or] at hplain
    exact bne_iff_ne.2 hplain.1
  have htaken : (Reference.escape t ++ rest).takeWhile (· != '<') = Reference.escape t := by
    rw [List.takeWhile_append_of_pos hinert]
    rcases hrest with rfl | ⟨more, rfl⟩
    · exact List.append_nil _
    · exact List.append_nil _
  have hdropped : (Reference.escape t ++ rest).dropWhile (· != '<') = rest := by
    rw [List.dropWhile_append_of_pos hinert]
    rcases hrest with rfl | ⟨more, rfl⟩ <;> rfl
  obtain ⟨c, tail, hc⟩ := List.exists_cons_of_ne_nil (Reference.escape_ne_nil h)
  have hfirst : (c == '<') = false := by
    have hne := hinert c (hc ▸ List.mem_cons_self)
    simpa using hne
  rw [hc, List.cons_append] at htaken hdropped ⊢
  rw [readFrom, if_neg (by simp [hfirst])]
  simp only [htaken, hdropped]
  rw [← hc, Reference.expand_escape]

/-- A token is read back, a text up to the tag that follows. -/
theorem readFrom_written {token : Token} (h : token.IsReadable) {rest : Text}
    (hrest : token.isText = true → rest = [] ∨ ∃ more, rest = '<' :: more) (fuel : Nat) :
    readFrom (fuel + 1) (token.written ++ rest) = token :: readFrom fuel rest := by
  cases h with
  | text ht => exact readFrom_text ht (hrest rfl) fuel
  | start hn ha =>
    rw [written_start, readFrom, if_pos (by rfl), readMarkup_start hn, readStart_written hn ha]
    rfl
  | finish hn =>
    rw [written_finish, readFrom, if_pos (by rfl), readMarkup, readFinish_written hn]
    rfl

theorem readFrom_flatMap_written {tokens : List Token} (hr : ∀ token ∈ tokens, token.IsReadable)
    (hs : AreSpaced tokens) {fuel : Nat} (hfuel : tokens.length ≤ fuel) :
    readFrom fuel (tokens.flatMap written) = tokens := by
  induction tokens generalizing fuel with
  | nil => cases fuel <;> rfl
  | cons token others ih =>
    obtain ⟨htoken, hothers⟩ := List.forall_mem_cons.1 hr
    obtain ⟨hnext, hspaced⟩ := List.isChain_cons.1 hs
    obtain ⟨fuel, rfl⟩ : ∃ n, fuel = n + 1 := ⟨fuel - 1, by simp at hfuel; omega⟩
    have hstops : token.isText = true →
        others.flatMap written = [] ∨ ∃ more, others.flatMap written = '<' :: more := by
      intro ht
      cases others with
      | nil => exact .inl rfl
      | cons second rest =>
        obtain ⟨more, hmore⟩ :=
          exists_written_eq (hothers second List.mem_cons_self) (hnext second rfl ht)
        exact .inr ⟨_, by rw [List.flatMap_cons, hmore]; rfl⟩
    rw [List.flatMap_cons, readFrom_written htoken hstops,
      ih hothers hspaced (Nat.le_of_succ_le_succ hfuel)]

/-- A row of tokens in which no two texts stand side by side is read back from what is written
of it. -/
theorem readAll_flatMap_written {tokens : List Token} (hr : ∀ token ∈ tokens, token.IsReadable)
    (hs : AreSpaced tokens) : readAll (tokens.flatMap written) = tokens := by
  have hlength : tokens.length ≤ (tokens.flatMap written).length := by
    clear hs
    induction tokens with
    | nil => exact Nat.zero_le _
    | cons token others ih =>
      obtain ⟨htoken, hothers⟩ := List.forall_mem_cons.1 hr
      have hone := List.length_pos_of_ne_nil (written_ne_nil htoken)
      have hmore := ih hothers
      rw [List.flatMap_cons, List.length_cons, List.length_append]
      omega
  exact readFrom_flatMap_written hr hs hlength

end Token

end TypedTemplate
