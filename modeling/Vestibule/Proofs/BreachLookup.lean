import Vestibule.Proofs.Conversation
import Vestibule.Proofs.InstantText
import Vestibule.Provider.BreachLookup

/-! Lookups of breached passwords. The service hears of the first five digits of a digest and
nothing else of the password, and a password counts as breached just when an entry of the answer has
the rest of the digits and a count above zero, however the answer is written. -/

namespace Vestibule

namespace Text

variable {isSeparator : Char → Bool} {blanks line rest text : List Char} {c : Char}

theorem splitAt_of_none (none : ∀ c ∈ line, isSeparator c = false) :
    splitAt isSeparator line = [line] := by
  induction line with
  | nil => rfl
  | cons c line ih =>
      rw [splitAt, ih fun d member => none d (List.mem_cons_of_mem _ member)]
      simp [none c List.mem_cons_self]

theorem splitAt_append (none : ∀ c ∈ line, isSeparator c = false)
    (separates : isSeparator c = true) :
    splitAt isSeparator (line ++ c :: rest) = line :: splitAt isSeparator rest := by
  induction line with
  | nil => simp [splitAt, separates]
  | cons d line ih =>
      rw [List.cons_append, splitAt, ih fun d member => none d (List.mem_cons_of_mem _ member)]
      simp [none d List.mem_cons_self]

theorem splitAt_ne_nil : splitAt isSeparator text ≠ [] := by
  cases text with
  | nil => exact List.cons_ne_nil _ _
  | cons c text =>
      rw [splitAt]
      split
      · exact List.cons_ne_nil _ _
      · split <;> exact List.cons_ne_nil _ _

theorem dropBlanks_append (blank : ∀ c ∈ blanks, isBlank c = true) :
    dropBlanks (blanks ++ text) = dropBlanks text :=
  List.dropWhile_append_of_pos blank

theorem trim_append_right (blank : ∀ c ∈ blanks, isBlank c = true) :
    trim (text ++ blanks) = trim text := by
  have gone : dropBlanks blanks = [] := List.dropWhile_eq_nil_iff.mpr blank
  have kept : dropBlanks (text ++ blanks) =
      if (dropBlanks text).isEmpty then [] else dropBlanks text ++ blanks := by
    rw [← gone]
    exact List.dropWhile_append
  rw [trim, kept, trim]
  split
  · rename_i none
    rw [List.isEmpty_iff.mp none]
  · rw [List.reverse_append, dropBlanks_append fun c member => blank c (List.mem_reverse.mp member)]

theorem trim_append_left (blank : ∀ c ∈ blanks, isBlank c = true) :
    trim (blanks ++ text) = trim text := by
  rw [trim, dropBlanks_append blank, trim]

theorem dropBlanks_of_printed (printed : ∀ c ∈ text, isBlank c = false) :
    dropBlanks text = text := by
  cases text with
  | nil => rfl
  | cons c text => exact dropBlanks_cons (printed c List.mem_cons_self)

theorem trim_of_printed (printed : ∀ c ∈ text, isBlank c = false) : trim text = text := by
  rw [trim, dropBlanks_of_printed printed,
    dropBlanks_of_printed fun c member => printed c (List.mem_reverse.mp member),
    List.reverse_reverse]

theorem exists_trim : ∃ blanks, dropBlanks text = trim text ++ blanks := by
  refine ⟨((dropBlanks text).reverse.takeWhile isBlank).reverse, ?_⟩
  have parts : (dropBlanks text).reverse.takeWhile isBlank ++ dropBlanks (dropBlanks text).reverse =
      (dropBlanks text).reverse := List.takeWhile_append_dropWhile
  rw [trim, ← List.reverse_append, parts, List.reverse_reverse]

end Text

namespace BreachLookup

variable {wanted line blanks body : List Char}

theorem isHit_append_right (blank : ∀ c ∈ blanks, Text.isBlank c = true) :
    isHit wanted (line ++ blanks) = isHit wanted line := by
  simp only [isHit, entryParts?, Text.trim_append_right blank]

theorem isHit_append_left (blank : ∀ c ∈ blanks, Text.isBlank c = true) :
    isHit wanted (blanks ++ line) = isHit wanted line := by
  simp only [isHit, entryParts?, Text.trim_append_left blank]

theorem isHit_withoutReturn : isHit wanted (withoutReturn line) = isHit wanted line := by
  rw [withoutReturn]
  split
  · rename_i last
    obtain ⟨before, rfl⟩ := List.getLast?_eq_some_iff.mp last
    rw [List.dropLast_concat, isHit_append_right (by simp; rfl)]
  · rfl

/-- What is looked up of a line stands before its first colon. -/
theorem entryParts?_eq_some {candidate count : List Char}
    (split : entryParts? line = some (candidate, count)) :
    ':' ∈ line ∧ candidate = (Text.dropBlanks line).takeWhile (· ≠ ':') := by
  obtain ⟨blanks, whole⟩ := @Text.exists_trim line
  simp only [entryParts?] at split
  split at split
  · cases split
  · rename_i colon _ found
    cases split
    have first : colon = ':' := by
      have head := List.head?_dropWhile_not (fun c => decide (c ≠ ':')) (Text.trim line)
      rw [found] at head
      simpa using head
    have parts : Text.trim line = (Text.trim line).takeWhile (· ≠ ':') ++ ':' :: count := by
      rw [first] at found
      rw [← found, List.takeWhile_append_dropWhile]
    have before : ∀ c ∈ (Text.trim line).takeWhile (· ≠ ':'), decide (c ≠ ':') = true :=
      fun _ => List.mem_takeWhile_imp
    rw [parts, List.append_assoc, List.cons_append] at whole
    constructor
    · refine (List.dropWhile_sublist Text.isBlank).subset (?_ : ':' ∈ Text.dropBlanks line)
      rw [whole]
      exact List.mem_append_right _ List.mem_cons_self
    · rw [whole, List.takeWhile_append_of_pos before]
      simp

/-- What ends a line does not matter, and neither does an empty line. -/
theorem contains_eq :
    contains body wanted = (Text.splitAt (· == '\n') body).any (isHit wanted) := by
  obtain ⟨parts, last, whole⟩ :=
    (List.eq_nil_or_concat (Text.splitAt (· == '\n') body)).resolve_left Text.splitAt_ne_nil
  have kept : parts.any (isHit wanted ∘ withoutReturn) = parts.any (isHit wanted) :=
    congrArg parts.any (funext fun line => isHit_withoutReturn)
  have spared : ((some last).toList.filter (· ≠ [])).any (isHit wanted) = isHit wanted last := by
    cases last with
    | nil => rfl
    | cons => simp
  rw [contains, lines, whole, List.concat_eq_append, List.dropLast_concat, List.getLast?_concat,
    List.any_append, List.any_map, kept, spared, List.any_append, List.any_cons, List.any_nil,
    Bool.or_false]

/-- How a line ends. -/
inductive LineEnd where
  | lf
  | crlf
  deriving DecidableEq

def LineEnd.text : LineEnd → List Char
  | lf => ['\n']
  | crlf => ['\r', '\n']

/-- An entry of an answer: the other digits of a digest in either case, and how often the password
was found, with blanks before and after. -/
structure RangeEntry where
  before : List Char
  digits : List Char
  count : Nat
  after : List Char
  blankBefore : ∀ c ∈ before, Text.isBlank c = true ∧ c ≠ '\n'
  length_digits : digits.length = 35
  hex : ∀ c ∈ digits, (Hex.value? c).isSome
  fits : count < 2 ^ 64
  blankAfter : ∀ c ∈ after, Text.isBlank c = true ∧ c ≠ '\n'

namespace RangeEntry

variable (e : RangeEntry)

def text : List Char := e.before ++ (e.digits ++ ':' :: Nat.toDigits 10 e.count) ++ e.after

/-- The entry speaks of a breached password with the digits. -/
def Matches (wanted : List Char) : Prop :=
  e.digits.map Text.toAsciiLower = wanted.map Text.toAsciiLower ∧ 0 < e.count

variable {e}

theorem printed_of_hex {c : Char} (hex : (Hex.value? c).isSome) :
    Text.isBlank c = false ∧ c ≠ ':' := by
  have range : 48 ≤ c.toNat ∧ c.toNat ≤ 57 ∨ 97 ≤ c.toNat ∧ c.toNat ≤ 102 ∨
      65 ≤ c.toNat ∧ c.toNat ≤ 70 := by
    rw [Hex.value?] at hex
    split at hex
    · exact .inl ‹_›
    split at hex
    · exact .inr (.inl ‹_›)
    split at hex
    · exact .inr (.inr ‹_›)
    · cases hex
  refine ⟨?_, by rintro rfl; revert range; decide⟩
  simp only [Text.isBlank, Bool.or_eq_false_iff, Bool.and_eq_false_iff, decide_eq_false_iff_not]
  omega

/-- The decimals of a count are read as the count. -/
theorem readUnsigned_toDigits {n : Nat} (fits : n < 2 ^ 64) :
    Integer.readUnsigned 64 (Nat.toDigits 10 n) = some n := by
  have read : Integer.digits? (Nat.toDigits 10 n) = some n := by
    simpa [Integer.padded] using @Integer.digits?_padded 0 n
  obtain ⟨c, digits, whole, digit⟩ := @Json.toDigits_begins n
  have unsigned : c ≠ '+' := by
    rintro rfl
    cases digit
  rw [whole] at read ⊢
  have small : n < 18446744073709551616 := fits
  simp [Integer.readUnsigned, unsigned, read, small]

theorem printed_of_mem_toDigits {n : Nat} {c : Char} (member : c ∈ Nat.toDigits 10 n) :
    Text.isBlank c = false :=
  Text.isBlank_of_isAsciiDigit (Json.isAsciiDigit_of_mem_toDigits member)

theorem isHit_text : isHit wanted e.text = true ↔ e.Matches wanted := by
  have bare : isHit wanted e.text = isHit wanted (e.digits ++ ':' :: Nat.toDigits 10 e.count) := by
    rw [text, isHit_append_right fun c member => (e.blankAfter c member).1,
      isHit_append_left fun c member => (e.blankBefore c member).1]
  have trimmed : Text.trim (e.digits ++ ':' :: Nat.toDigits 10 e.count) =
      e.digits ++ ':' :: Nat.toDigits 10 e.count := by
    refine Text.trim_of_printed fun c member => ?_
    rcases List.mem_append.mp member with digit | member
    · exact (printed_of_hex (e.hex c digit)).1
    rcases List.mem_cons.mp member with rfl | decimal
    · rfl
    · exact printed_of_mem_toDigits decimal
  have noColon : ∀ c ∈ e.digits, decide (c ≠ ':') = true := fun c member =>
    decide_eq_true (printed_of_hex (e.hex c member)).2
  have split : entryParts? (e.digits ++ ':' :: Nat.toDigits 10 e.count) =
      some (e.digits, Nat.toDigits 10 e.count) := by
    rw [entryParts?, trimmed, List.dropWhile_append_of_pos noColon,
      List.takeWhile_append_of_pos noColon]
    simp
  rw [bare, isHit, split]
  simp [Text.trim_of_printed fun c => printed_of_mem_toDigits, readUnsigned_toDigits e.fits,
    Text.eqIgnoringCase, Matches]

theorem single : ∀ c ∈ e.text, (c == '\n') = false := by
  have printed {c : Char} (printed : Text.isBlank c = false) : (c == '\n') = false :=
    beq_false_of_ne (by rintro rfl; cases printed)
  intro c member
  rcases List.mem_append.mp member with member | after
  · rcases List.mem_append.mp member with before | member
    · exact beq_false_of_ne (e.blankBefore c before).2
    rcases List.mem_append.mp member with digit | member
    · exact printed (printed_of_hex (e.hex c digit)).1
    rcases List.mem_cons.mp member with rfl | decimal
    · rfl
    · exact printed (printed_of_mem_toDigits decimal)
  · exact beq_false_of_ne (e.blankAfter c after).2

end RangeEntry

/-- A line of an answer to the question for these digits: an entry, or something else, which is not
taken for an entry of these digits. -/
inductive RangeLine (wanted : List Char) where
  | entry (e : RangeEntry)
  | other (text : List Char) (single : '\n' ∉ text)
      (misses : ':' ∈ text → (((Text.dropBlanks text).takeWhile (· ≠ ':')).map Text.toAsciiLower ≠
        wanted.map Text.toAsciiLower))

namespace RangeLine

def text : RangeLine wanted → List Char
  | entry e => e.text
  | other text .. => text

def Matches : RangeLine wanted → Prop
  | entry e => e.Matches wanted
  | other .. => False

variable {l : RangeLine wanted}

theorem isHit_text : isHit wanted l.text = true ↔ l.Matches := by
  cases l with
  | entry e => exact RangeEntry.isHit_text
  | other text single misses =>
      refine iff_of_false ?_ id
      change ¬ isHit wanted text = true
      rw [isHit]
      split
      · exact Bool.noConfusion
      · rename_i split
        obtain ⟨colon, rfl⟩ := entryParts?_eq_some split
        have differs : Text.eqIgnoringCase ((Text.dropBlanks text).takeWhile (· ≠ ':')) wanted =
            false := beq_false_of_ne (misses colon)
        rw [differs, Bool.false_and]
        exact Bool.noConfusion

theorem single : ∀ c ∈ l.text, (c == '\n') = false := by
  cases l with
  | entry e => exact RangeEntry.single
  | other text single misses =>
      intro c member
      exact beq_false_of_ne (by rintro rfl; exact single member)

end RangeLine

/-- An answer: lines that end, and perhaps one that does not. -/
structure RangePage (wanted : List Char) where
  lines : List (RangeLine wanted × LineEnd)
  last : Option (RangeLine wanted)

namespace RangePage

def text (page : RangePage wanted) : List Char :=
  page.lines.flatMap (fun l => l.1.text ++ l.2.text) ++ (page.last.map RangeLine.text).getD []

/-- The entries of the answer. -/
def entries (page : RangePage wanted) : List RangeEntry :=
  (page.lines.map Prod.fst ++ page.last.toList).filterMap fun
    | .entry e => some e
    | .other .. => none

variable {page : RangePage wanted} {lines : List (RangeLine wanted × LineEnd)} {rest : List Char}

/-- A line is cut off at its end, whichever it is. -/
theorem splitAt_line {l : RangeLine wanted} {ending : LineEnd} :
    (Text.splitAt (· == '\n') (l.text ++ ending.text ++ rest)).any (isHit wanted) =
      (isHit wanted l.text || (Text.splitAt (· == '\n') rest).any (isHit wanted)) := by
  cases ending with
  | lf =>
      rw [LineEnd.text, List.append_assoc, List.singleton_append, Text.splitAt_append l.single rfl,
        List.any_cons]
  | crlf =>
      have single : ∀ c ∈ l.text ++ ['\r'], (c == '\n') = false := by
        intro c member
        rcases List.mem_append.mp member with member | last
        · exact l.single c member
        · cases List.mem_singleton.mp last
          rfl
      have same : l.text ++ LineEnd.crlf.text ++ rest = l.text ++ ['\r'] ++ '\n' :: rest := by
        simp [LineEnd.text]
      have blank : ∀ c ∈ ['\r'], Text.isBlank c = true := by simp; rfl
      rw [same, Text.splitAt_append single rfl, List.any_cons, isHit_append_right blank]

/-- By induction on the lines. -/
theorem splitAt_lines :
    (Text.splitAt (· == '\n') (lines.flatMap (fun l => l.1.text ++ l.2.text) ++ rest)).any
        (isHit wanted) =
      (lines.any (fun l => isHit wanted l.1.text) ||
        (Text.splitAt (· == '\n') rest).any (isHit wanted)) := by
  induction lines with
  | nil => rfl
  | cons l lines ih =>
      rw [List.flatMap_cons, List.append_assoc, splitAt_line, ih, List.any_cons, Bool.or_assoc]

theorem contains_text :
    contains page.text wanted = true ↔ ∃ e ∈ page.entries, e.Matches wanted := by
  have last : (Text.splitAt (· == '\n') ((page.last.map RangeLine.text).getD [])).any
      (isHit wanted) = page.last.toList.any (fun l => isHit wanted l.text) := by
    cases page.last with
    | none => rfl
    | some l => simp [Text.splitAt_of_none l.single]
  have hits : contains page.text wanted =
      (page.lines.map Prod.fst ++ page.last.toList).any (fun l => isHit wanted l.text) := by
    rw [contains_eq, text, splitAt_lines, last, List.any_append, List.any_map]
    rfl
  simp only [hits, List.any_eq_true, RangeLine.isHit_text, entries, List.mem_filterMap]
  constructor
  · rintro ⟨l, member, matched⟩
    cases l with
    | entry e => exact ⟨e, ⟨_, member, rfl⟩, matched⟩
    | other => exact matched.elim
  · rintro ⟨e, ⟨l, member, same⟩, matched⟩
    cases l with
    | entry =>
        cases same
        exact ⟨_, member, matched⟩
    | other => cases same

end RangePage

section

variable {password : String}

theorem length_digits : (digits password).length = 40 := by
  have bytes : (Sha1.digest (Utf8.encode password)).length = 20 := by
    simp [Sha1.digest, Sha1.State.words, Words.toBytes32]
  rw [digits, List.length_map, Hex.encode, List.length_flatMap]
  simp [List.map_const', bytes]

/-- A digit as it is sent. -/
def IsUpperHex (c : Char) : Prop := '0' ≤ c ∧ c ≤ '9' ∨ 'A' ≤ c ∧ c ≤ 'F'

instance {c : Char} : Decidable (IsUpperHex c) := inferInstanceAs (Decidable (_ ∨ _))

theorem isUpperHex_of_mem_digits {c : Char} (member : c ∈ digits password) : IsUpperHex c := by
  have each : ∀ d < 16, IsUpperHex (Text.toAsciiUpper (Hex.digit d)) := by decide
  obtain ⟨lower, written, rfl⟩ := List.mem_map.mp member
  obtain ⟨b, -, digit⟩ := List.mem_flatMap.mp written
  have high := b.toNat_lt
  rcases List.mem_cons.mp digit with rfl | digit
  · exact each _ (by omega)
  · cases List.mem_singleton.mp digit
    exact each _ (by omega)

end

section

variable {p : RetryPolicy} {c : BreachLookupConfig} {password : String}
  {replies : Nat → HttpReply}

/-- The question for all that begin with these digits. -/
def ask (p : RetryPolicy) (c : BreachLookupConfig) (sent : List Char) :
    ProviderConversation HttpResponse :=
  .retrying p (.fetchSuccess (rangeRequest c sent))

/-- The answer is made use of without another request. -/
theorem run_isBreached (enabled : c.enabled = true) :
    (isBreached p c password).run.run replies =
      (((ask p c ((digits password).take sentDigits)).run.run replies).1,
        ((ask p c ((digits password).take sentDigits)).run.run replies).2.map
          (Except.map fun response =>
            contains response.text.toList ((digits password).drop sentDigits))) := by
  rw [isBreached, enabled]
  exact Conversation.run_bind_done fun outcome => by cases outcome <;> rfl

/-- The question is pursued, and the last answer decides its result. -/
theorem run_ask {sent : List Char} {request : HttpRequest}
    (built : rangeRequest c sent = .ok request) :
    ∃ trails : List Exchanges, ((ask p c sent).run.run replies).1 = trails.flatten ∧
      (∀ trail ∈ trails, Trail request trail) ∧ trails.length ≤ max 1 p.maxAttempts ∧
        ∃ r last, trails.flatten.getLast? = some (r, last) ∧
          ∀ response, ((ask p c sent).run.run replies).2 = some (.ok response) ↔
            last = .ok response ∧ response.isSuccess = true := by
  have goes := @Conversation.goes_run _ (ask p c sent).run replies
  generalize (ask p c sent).run.run replies = ran at goes
  rw [ask, built] at goes
  have each : ∀ log result, (ProviderConversation.fetchSuccess (.ok request)).run.Goes log result →
      (∀ e ∈ log, True) →
        ∃ outcome, result = some outcome ∧ ProviderConversation.Pursued request log outcome :=
    fun _ _ goes _ => ProviderConversation.pursued_fetchSuccess goes
  obtain ⟨outcome, tries, ended⟩ :=
    ProviderConversation.goes_retrying each goes fun _ _ => trivial
  obtain ⟨trails, whole, each, few, r, last, final, answered⟩ :=
    ProviderConversation.exists_trails tries
  refine ⟨trails, whole, each, few, r, last, whole ▸ final, fun response => ?_⟩
  rw [← answered]
  rcases ended with ended | ⟨ended, failure, failed⟩
  · rw [ended, Option.some.injEq]
  · simp [ended, failed]

end

end BreachLookup

end Vestibule
