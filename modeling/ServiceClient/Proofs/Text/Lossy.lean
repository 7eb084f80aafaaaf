import ServiceClient.Proofs.Text.Reading

/-!
# Ill-formed octets

Octets that are not those of a text are read part by part: a character where one stands, and U+FFFD
in the place of each ill-formed part, which is as long as it could still begin a character. `Lossy`
says this without a table of leading octets, and `lossy_iff` that it is what `decodeLossy` does.
-/

namespace ServiceClient.Text.Utf8

/-- Whether some octets are the first ones of a character. -/
def Begins (octets : Bytes) : Prop :=
  ∃ c, octets <+: String.utf8EncodeChar c

/-- A part in front of other octets that is read as no character: it could begin one until the next
octet, or is a single octet that begins none. -/
structure IllFormed (part rest : Bytes) : Prop where
  some : part ≠ []
  begun : part.length = 1 ∨ Begins part
  longest : ∀ more, more ≠ [] → more <+: rest → ¬ Begins (part ++ more)
  unread : ∀ c, ¬ String.utf8EncodeChar c <+: part ++ rest

/-- The characters as which octets are read. -/
inductive Lossy : Bytes → List Char → Prop where
  | nil : Lossy [] []
  | char {rest cs} (c : Char) :
    Lossy rest cs → Lossy (String.utf8EncodeChar c ++ rest) (c :: cs)
  | part {part rest cs} :
    IllFormed part rest → Lossy rest cs → Lossy (part ++ rest) (Char.ofNat 0xfffd :: cs)

/-- No shorter part is ill-formed in front of the same octets. -/
lemma IllFormed.not_longer {part rest more rest' : Bytes} (ill : IllFormed part rest)
    (ill' : IllFormed (part ++ more) rest') (eq : rest = more ++ rest') : more = [] := by
  by_contra longer
  rcases ill'.begun with one | begins
  · have length := List.length_pos_of_ne_nil ill.some
    have length' := List.length_pos_of_ne_nil longer
    rw [List.length_append] at one
    omega
  · exact ill.longest more longer ⟨rest', eq.symm⟩ begins

/-- There is one ill-formed part in front of some octets. -/
lemma IllFormed.unique {part rest part' rest' : Bytes} (ill : IllFormed part rest)
    (ill' : IllFormed part' rest') (eq : part ++ rest = part' ++ rest') :
    part = part' ∧ rest = rest' := by
  rcases List.append_eq_append_iff.1 eq with ⟨more, rfl, left⟩ | ⟨more, rfl, left⟩
  · cases ill.not_longer ill' left
    exact ⟨(List.append_nil _).symm, left⟩
  · cases ill'.not_longer ill left
    exact ⟨List.append_nil _, left.symm⟩

/-! ### Leading octets and those behind them -/

/-- Octets that may stand behind a leading one, the first of them within bounds. -/
def Follow : UInt8 × UInt8 → Bytes → Prop
  | _, [] => True
  | bounds, b :: bs => (bounds.1 ≤ b ∧ b ≤ bounds.2) ∧ Follow (0x80, 0xbf) bs

/-- The bits of a character, gathered from the octets behind the leading one. -/
def gathered (bits : Nat) (tails : Bytes) : Nat :=
  tails.foldl (fun bits b => bits * 0x40 + b.toNat % 0x40) bits

/-- What may follow may be cut off. -/
lemma Follow.left {bounds : UInt8 × UInt8} {bs more : Bytes} (follow : Follow bounds (bs ++ more)) :
    Follow bounds bs := by
  induction bs generalizing bounds with
  | nil => trivial
  | cons b bs ih => exact ⟨follow.1, ih follow.2⟩

/-- As many octets may follow as are asked for. -/
lemma exists_follow {bounds : UInt8 × UInt8} {bs : Bytes} (follow : Follow bounds bs)
    (least : bounds.1 ≤ bounds.2) (n : Nat) :
    ∃ more, more.length = n ∧ Follow bounds (bs ++ more) := by
  induction bs generalizing bounds with
  | nil =>
    induction n generalizing bounds with
    | zero => exact ⟨[], rfl, trivial⟩
    | succ n ih =>
      obtain ⟨more, length, follow'⟩ := @ih (0x80, 0xbf) trivial (by decide)
      exact ⟨bounds.1 :: more, congrArg (· + 1) length, ⟨UInt8.le_refl _, least⟩, follow'⟩
  | cons b bs ih =>
    obtain ⟨more, length, follow'⟩ := ih follow.2 (by decide)
    exact ⟨more, length, follow.1, follow'⟩

/-- Octets are read as long as they may follow: up to the number asked for, or as many as there
are. -/
lemma readTails_cases (bits : Nat) (bounds : UInt8 × UInt8) (n : Nat) (octets : Bytes) :
    (∃ tails rest, octets = tails ++ rest ∧ tails.length = n ∧ Follow bounds tails ∧
      readTails bits bounds n octets = ⟨some (Char.ofNat (gathered bits tails)), rest⟩) ∨
    ∃ tails rest, octets = tails ++ rest ∧ tails.length < n ∧ Follow bounds tails ∧
      (∀ more, more ≠ [] → more <+: rest → ¬ Follow bounds (tails ++ more)) ∧
      readTails bits bounds n octets = ⟨none, rest⟩ := by
  induction n generalizing bits bounds octets with
  | zero => exact .inl ⟨[], octets, rfl, rfl, trivial, rfl⟩
  | succ n ih =>
    cases octets with
    | nil =>
      refine .inr ⟨[], [], rfl, n.succ_pos, trivial, fun more longer front => ?_, rfl⟩
      exact absurd (List.prefix_nil.1 front) longer
    | cons b octets =>
      rw [readTails]
      by_cases fits : bounds.1 ≤ b ∧ b ≤ bounds.2
      · rw [if_pos (by simpa using fits)]
        rcases ih (bits * 0x40 + b.toNat % 0x40) (0x80, 0xbf) octets with
          ⟨tails, rest, rfl, length, follow, eq⟩ | ⟨tails, rest, rfl, length, follow, last, eq⟩
        · exact .inl ⟨b :: tails, rest, rfl, congrArg (· + 1) length, ⟨fits, follow⟩, eq⟩
        · refine .inr ⟨b :: tails, rest, rfl, Nat.succ_lt_succ length, ⟨fits, follow⟩, ?_, eq⟩
          exact fun more longer front follow' => last more longer front follow'.2
      · rw [if_neg (by simpa using fits)]
        refine .inr ⟨[], b :: octets, rfl, n.succ_pos, trivial, ?_, rfl⟩
        intro more longer front follow
        cases more with
        | nil => exact longer rfl
        | cons b' more =>
          cases (List.cons_prefix_cons.1 front).1
          exact fits follow.1

/-- The octets that lead characters are those below `0x80`, and those of three ranges. -/
lemma tailCount?_cases {lead : UInt8} {n : Nat} (count : tailCount? lead = some n) :
    n = 0 ∧ lead.toNat < 0x80 ∨ n = 1 ∧ 0xc2 ≤ lead.toNat ∧ lead.toNat < 0xe0 ∨
      n = 2 ∧ 0xe0 ≤ lead.toNat ∧ lead.toNat < 0xf0 ∨
        n = 3 ∧ 0xf0 ≤ lead.toNat ∧ lead.toNat < 0xf5 := by
  simp only [tailCount?, Bool.and_eq_true, decide_eq_true_eq, UInt8.le_iff_toNat_le] at count
  split at count
  next one => exact .inl ⟨by cases count; rfl, Nat.lt_succ_of_le one⟩
  next =>
    split at count
    next two => exact .inr (.inl ⟨by cases count; rfl, two.1, Nat.lt_succ_of_le two.2⟩)
    next =>
      split at count
      next three =>
        exact .inr (.inr (.inl ⟨by cases count; rfl, three.1, Nat.lt_succ_of_le three.2⟩))
      next =>
        split at count
        next four =>
          exact .inr (.inr (.inr ⟨by cases count; rfl, four.1, Nat.lt_succ_of_le four.2⟩))
        next => cases count

/-- The octets that may stand behind a leading one: fewer behind those that would otherwise lead
what fewer octets can tell, surrogates, or what is beyond the last character. -/
lemma within_secondBounds {lead b : UInt8} :
    (secondBounds lead).1 ≤ b ∧ b ≤ (secondBounds lead).2 ↔
      (0x80 ≤ b.toNat ∧ b.toNat < 0xc0) ∧ (lead.toNat = 0xe0 → 0xa0 ≤ b.toNat) ∧
        (lead.toNat = 0xed → b.toNat < 0xa0) ∧ (lead.toNat = 0xf0 → 0x90 ≤ b.toNat) ∧
        (lead.toNat = 0xf4 → b.toNat < 0x90) := by
  simp only [secondBounds, beq_iff_eq, ← UInt8.toNat_inj, UInt8.le_iff_toNat_le, UInt8.reduceToNat]
  split <;> [skip; split <;> [skip; split <;> [skip; split]]] <;> simp only [UInt8.reduceToNat] <;>
    omega

/-- An octet by its number. -/
lemma ofNat_eq {b : UInt8} {n : Nat} (number : n = b.toNat) : UInt8.ofNat n = b := by
  rw [number, UInt8.ofNat_toNat]

/-- The octets behind a leading one and the next give six bits each. -/
lemma within_tail {b : UInt8} : (0x80 ≤ b ∧ b ≤ 0xbf) ↔ 0x80 ≤ b.toNat ∧ b.toNat < 0xc0 := by
  rw [UInt8.le_iff_toNat_le, UInt8.le_iff_toNat_le]
  exact and_congr_right fun _ => Nat.lt_succ_iff.symm

/-- A character has the number it is made of. -/
lemma toNat_ofNat {n : Nat} (valid : n.isValidChar) : (Char.ofNat n).toNat = n := by
  rw [Char.ofNat, dif_pos valid]
  rfl

/-- The octets of the character with a given number. -/
lemma utf8EncodeChar_ofNat_cases {n : Nat} (valid : n.isValidChar) :
    n < 0x80 ∧ String.utf8EncodeChar (Char.ofNat n) = [UInt8.ofNat n] ∨
      0x80 ≤ n ∧ n < 0x800 ∧ String.utf8EncodeChar (Char.ofNat n) =
        [UInt8.ofNat (n / 64 + 0xc0), UInt8.ofNat (n % 64 + 0x80)] ∨
      0x800 ≤ n ∧ n < 0x10000 ∧ String.utf8EncodeChar (Char.ofNat n) =
        [UInt8.ofNat (n / 64 / 64 + 0xe0), UInt8.ofNat (n / 64 % 64 + 0x80),
          UInt8.ofNat (n % 64 + 0x80)] ∨
      0x10000 ≤ n ∧ String.utf8EncodeChar (Char.ofNat n) =
        [UInt8.ofNat (n / 64 / 64 / 64 + 0xf0), UInt8.ofNat (n / 64 / 64 % 64 + 0x80),
          UInt8.ofNat (n / 64 % 64 + 0x80), UInt8.ofNat (n % 64 + 0x80)] := by
  obtain ⟨m, numbered, -, octets⟩ := utf8EncodeChar_cases (Char.ofNat n)
  exact (numbered.symm.trans (toNat_ofNat valid)) ▸ octets

/-- The octets behind a leading one are those of the character whose bits are gathered from
them. -/
lemma utf8EncodeChar_gathered {lead : UInt8} {tails : Bytes}
    (count : tailCount? lead = some tails.length) (follow : Follow (secondBounds lead) tails) :
    String.utf8EncodeChar (Char.ofNat (gathered (leadBits lead tails.length) tails)) =
      lead :: tails := by
  rcases tailCount?_cases count with ⟨length, one⟩ | ⟨length, two, two'⟩ | ⟨length, three, three'⟩ |
    ⟨length, four, four'⟩
  · obtain rfl := List.length_eq_zero_iff.1 length
    rcases utf8EncodeChar_ofNat_cases (n := lead.toNat) (.inl (by omega)) with
      ⟨-, eq⟩ | ⟨_, _⟩ | ⟨_, _⟩ | ⟨_, _⟩
    · exact eq.trans (by rw [UInt8.ofNat_toNat])
    all_goals omega
  · obtain ⟨a, rfl⟩ := List.length_eq_one_iff.1 length
    obtain ⟨⟨a₁, a₂⟩, -⟩ := within_secondBounds.1 follow.1
    generalize number : lead.toNat % 0x20 * 0x40 + a.toNat % 0x40 = n
    rcases utf8EncodeChar_ofNat_cases (n := n) (.inl (by omega)) with
      ⟨_, _⟩ | ⟨-, -, eq⟩ | ⟨_, _⟩ | ⟨_, _⟩
    case inr.inl =>
      refine (congrArg _ (congrArg _ number)).trans (eq.trans ?_)
      rw [ofNat_eq (b := lead) (by omega), ofNat_eq (b := a) (by omega)]
    all_goals omega
  · obtain ⟨a, b, rfl⟩ := List.length_eq_two.1 length
    obtain ⟨⟨a₁, a₂⟩, low, high, -⟩ := within_secondBounds.1 follow.1
    obtain ⟨b₁, b₂⟩ := within_tail.1 follow.2.1
    generalize number :
      (lead.toNat % 0x10 * 0x40 + a.toNat % 0x40) * 0x40 + b.toNat % 0x40 = n
    have valid : n.isValidChar := by
      unfold Nat.isValidChar
      omega
    rcases utf8EncodeChar_ofNat_cases valid with ⟨_, _⟩ | ⟨_, _, _⟩ | ⟨-, -, eq⟩ | ⟨_, _⟩
    case inr.inr.inl =>
      refine (congrArg _ (congrArg _ number)).trans (eq.trans ?_)
      rw [ofNat_eq (b := lead) (by omega), ofNat_eq (b := a) (by omega),
        ofNat_eq (b := b) (by omega)]
    all_goals omega
  · obtain ⟨a, b, c, rfl⟩ := List.length_eq_three.1 length
    obtain ⟨⟨a₁, a₂⟩, -, -, low, high⟩ := within_secondBounds.1 follow.1
    obtain ⟨b₁, b₂⟩ := within_tail.1 follow.2.1
    obtain ⟨c₁, c₂⟩ := within_tail.1 follow.2.2.1
    generalize number :
      ((lead.toNat % 0x08 * 0x40 + a.toNat % 0x40) * 0x40 + b.toNat % 0x40) * 0x40 +
        c.toNat % 0x40 = n
    have valid : n.isValidChar := .inr ⟨by omega, by omega⟩
    rcases utf8EncodeChar_ofNat_cases valid with ⟨_, _⟩ | ⟨_, _, _⟩ | ⟨_, _, _⟩ | ⟨-, eq⟩
    case inr.inr.inr =>
      refine (congrArg _ (congrArg _ number)).trans (eq.trans ?_)
      rw [ofNat_eq (b := lead) (by omega), ofNat_eq (b := a) (by omega),
        ofNat_eq (b := b) (by omega), ofNat_eq (b := c) (by omega)]
    all_goals omega

/-- The octets of a character are a leading one and as many as it says, which may follow it. -/
lemma follow_of_utf8EncodeChar {c : Char} {lead : UInt8} {tails : Bytes}
    (eq : String.utf8EncodeChar c = lead :: tails) :
    tailCount? lead = some tails.length ∧ Follow (secondBounds lead) tails := by
  obtain ⟨n, numbered, bound, octets⟩ := utf8EncodeChar_cases c
  have noSurrogate : n < 0xd800 ∨ 0xdfff < n := by
    rcases c.valid with low | ⟨high, -⟩
    · exact .inl (numbered ▸ low)
    · exact .inr (numbered ▸ high)
  have small {m : Nat} (lt : m < 0x100) : (UInt8.ofNat m).toNat = m :=
    Nat.mod_eq_of_lt lt
  have tail {m : Nat} (lt : m < 64) :
      0x80 ≤ UInt8.ofNat (m + 0x80) ∧ UInt8.ofNat (m + 0x80) ≤ 0xbf :=
    within_tail.2 (by rw [small (by omega)]; omega)
  rcases octets with ⟨one, eq'⟩ | ⟨two, two', eq'⟩ | ⟨three, three', eq'⟩ | ⟨four, eq'⟩ <;>
    cases eq'.symm.trans eq
  · exact ⟨(leads_one n one).1, trivial⟩
  · refine ⟨(leads_two (n / 64) (by omega) (by omega)).1, within_secondBounds.2 ?_, trivial⟩
    rw [small (by omega), small (by omega)]
    omega
  · refine ⟨(leads_three (n / 64 / 64) (by omega)).1, within_secondBounds.2 ?_, tail (by omega),
      trivial⟩
    rw [small (by omega), small (by omega)]
    omega
  · refine ⟨(leads_four (n / 64 / 64 / 64) (by omega)).1, within_secondBounds.2 ?_, tail (by omega),
      tail (by omega), trivial⟩
    rw [small (by omega), small (by omega)]
    omega

/-- Octets begin a character when the first one leads at least as many as there are behind it, and
these may follow it. -/
lemma begins_cons_iff {lead : UInt8} {tails : Bytes} : Begins (lead :: tails) ↔
    ∃ n, tailCount? lead = some n ∧ tails.length ≤ n ∧ Follow (secondBounds lead) tails := by
  constructor
  · rintro ⟨c, more, eq⟩
    obtain ⟨count, follow⟩ := follow_of_utf8EncodeChar eq.symm
    exact ⟨_, count, by simp, follow.left⟩
  · rintro ⟨n, count, length, follow⟩
    have least : (secondBounds lead).1 ≤ (secondBounds lead).2 := by
      unfold secondBounds
      split <;> [skip; split <;> [skip; split <;> [skip; split]]] <;> decide
    obtain ⟨more, length', follow'⟩ := exists_follow follow least (n - tails.length)
    have count' : tailCount? lead = some (tails ++ more).length := by
      rw [count, List.length_append, length', Nat.add_sub_cancel' length]
    exact ⟨_, more, (utf8EncodeChar_gathered count' follow').symm⟩

/-- A character in front of some octets has the first of them as its leading one. -/
lemma exists_tails {c : Char} {lead : UInt8} {octets : Bytes}
    (front : String.utf8EncodeChar c <+: lead :: octets) :
    ∃ tails, String.utf8EncodeChar c = lead :: tails ∧ tails <+: octets := by
  cases eq : String.utf8EncodeChar c with
  | nil =>
    have length := String.length_utf8EncodeChar c
    rw [eq] at length
    exact absurd length.symm c.utf8Size_pos.ne'
  | cons lead' tails =>
    rw [eq, List.cons_prefix_cons] at front
    exact ⟨tails, by rw [front.1], front.2⟩

/-- Octets that stand in front of others, and are more than the first of them, go on among the
rest. -/
lemma exists_more {tails tails' rest : Bytes} (front : tails' <+: tails ++ rest)
    (length : tails.length < tails'.length) :
    ∃ more, more ≠ [] ∧ more <+: rest ∧ tails' = tails ++ more := by
  obtain ⟨more, rfl⟩ :=
    List.prefix_of_prefix_length_le (List.prefix_append tails rest) front length.le
  refine ⟨more, ?_, (List.prefix_append_right_inj tails).1 front, rfl⟩
  rintro rfl
  simp at length

/-- At the front of some octets stands a character or an ill-formed part. -/
lemma front_cases (lead : UInt8) (octets : Bytes) :
    (∃ c rest, front lead octets = ⟨some c, rest⟩ ∧
      lead :: octets = String.utf8EncodeChar c ++ rest) ∨
    ∃ part rest, front lead octets = ⟨none, rest⟩ ∧ lead :: octets = part ++ rest ∧
      IllFormed part rest := by
  unfold front
  cases count : tailCount? lead with
  | none =>
    refine .inr ⟨[lead], octets, rfl, rfl, by simp, .inl rfl, ?_, ?_⟩
    · intro more longer front begins
      obtain ⟨n, count', -⟩ := begins_cons_iff.1 begins
      cases count.symm.trans count'
    · intro c front
      obtain ⟨tails, eq, -⟩ := exists_tails front
      cases count.symm.trans (follow_of_utf8EncodeChar eq).1
  | some n =>
    dsimp only
    rcases readTails_cases (leadBits lead n) (secondBounds lead) n octets with
      ⟨tails, rest, rfl, rfl, follow, eq⟩ | ⟨tails, rest, rfl, length, follow, last, eq⟩
    · refine .inl ⟨_, rest, eq, ?_⟩
      rw [utf8EncodeChar_gathered count follow, List.cons_append]
    · refine .inr ⟨lead :: tails, rest, eq, rfl, by simp, .inr ?_, ?_, ?_⟩
      · exact begins_cons_iff.2 ⟨n, count, length.le, follow⟩
      · intro more longer front begins
        obtain ⟨n', -, -, follow'⟩ := begins_cons_iff.1 begins
        exact last more longer front follow'
      · intro c front
        obtain ⟨tails', eq', front'⟩ := exists_tails front
        obtain ⟨count', follow'⟩ := follow_of_utf8EncodeChar eq'
        cases count.symm.trans count'
        obtain ⟨more, longer, front'', rfl⟩ := exists_more front' length
        exact last more longer front'' follow'

/-- Octets are read as the characters that take their places, and as no others. -/
lemma lossy_iff {octets : Bytes} {cs : List Char} : Lossy octets cs ↔ decodeLossy octets = cs := by
  constructor
  · intro lossy
    induction lossy with
    | nil => rw [decodeLossy, scan, List.map_nil]
    | @char rest cs c _ ih =>
      rw [decodeLossy, scan_utf8EncodeChar, List.map_cons, ← decodeLossy, ih]
      rfl
    | @part part rest cs ill _ ih =>
      obtain ⟨lead, tails, rfl⟩ := List.exists_cons_of_ne_nil ill.some
      -- `front` finds an ill-formed part as well, and there is one only
      have read : front lead (tails ++ rest) = ⟨none, rest⟩ := by
        rcases front_cases lead (tails ++ rest) with
          ⟨c, rest', -, eq⟩ | ⟨part', rest', read, eq, ill'⟩
        · exact absurd ⟨rest', eq.symm⟩ (ill.unread c)
        · rw [read, (ill.unique ill' eq).2]
      rw [decodeLossy, List.cons_append, scan, read, List.map_cons, ← decodeLossy, ih]
      rfl
  · rintro rfl
    induction octets using scan.induct with
    | case1 =>
      rw [decodeLossy, scan]
      exact .nil
    | case2 lead octets ih =>
      rw [decodeLossy, scan, List.map_cons, ← decodeLossy]
      rcases front_cases lead octets with ⟨c, rest, read, eq⟩ | ⟨part, rest, read, eq, ill⟩
      · rw [read] at ih ⊢
        rw [eq]
        exact .char c ih
      · rw [read] at ih ⊢
        rw [eq]
        exact .part ill ih

end ServiceClient.Text.Utf8
