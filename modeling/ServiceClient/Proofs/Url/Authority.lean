import Mathlib.Data.List.TakeWhile
import ServiceClient.Proofs.Steps
import ServiceClient.Proofs.Url.Host

/-!
# Authorities

What the authority of a special scheme is read as depends on its text alone: `readAuthority_ok`. A
text that ends in a blank is no authority, whether the blank would belong to the host or to the
port: `readAuthority_concat`.
-/

namespace ServiceClient.Url

variable {usual : Nat} {last : Bool} {cs : List Char} {c : Char}

/-- A special scheme has a host, and a port may follow it. -/
lemma readHostPort_ok {host? : Option Host} {port? : Option Nat} {left : List Char} :
    readHostPort (.special usual) cs = .ok (host?, port?, left) ↔
      ∃ host, (splitHost false cs).1 ≠ [] ∧ Host.ofSpecial (splitHost false cs).1 = .ok host ∧
        host? = some host ∧
        readPort (some usual) ((splitHost false cs).2.drop 1) = .ok (port?, left) := by
  constructor
  · intro eq
    cases text : (splitHost false cs).1 with
    | nil =>
      simp only [readHostPort, text] at eq
      cases eq
    | cons x xs =>
      simp only [readHostPort, text] at eq
      obtain ⟨host, read, eq⟩ := bind_ok eq
      obtain ⟨port, found, eq⟩ := bind_ok eq
      cases eq
      exact ⟨host, List.cons_ne_nil x xs, read, rfl, found⟩
  · rintro ⟨host, nonempty, read, rfl, found⟩
    simp only [readHostPort, List.isEmpty_iff, nonempty, if_false, read, found]
    rfl

/-- A special scheme has an authority with a host, however its text is followed. -/
lemma readAuthority_ok {a : Authority} {left : List Char} :
    readAuthority (.special usual) last cs = .ok (a, left) ↔
      ∃ host port?, readHostPort (.special usual) (splitUser cs).2 = .ok (some host, port?, left) ∧
        a = ⟨(readUser ((splitUser cs).1.getD [])).1, (readUser ((splitUser cs).1.getD [])).2,
          some host, port?⟩ := by
  constructor
  · intro eq
    simp only [readAuthority] at eq
    split at eq
    next => cases eq
    next =>
      obtain ⟨⟨host?, port?, left'⟩, read, eq⟩ := bind_ok eq
      obtain ⟨host, -, -, rfl, -⟩ := readHostPort_ok.1 read
      cases eq
      exact ⟨host, port?, read, rfl⟩
  · rintro ⟨host, port?, read, rfl⟩
    obtain ⟨-, nonempty, -⟩ := readHostPort_ok.1 read
    have behind : (splitUser cs).2.isEmpty = false := by
      rw [List.isEmpty_eq_false_iff]
      intro nothing
      rw [nothing] at nonempty
      exact nonempty rfl
    simp only [readAuthority, behind, read, Bool.and_false, Bool.false_and, Bool.false_eq_true,
      if_false]
    rfl

/-- An authority of a special scheme is the same whether something follows it or not. -/
lemma readAuthority_last {last' : Bool} {a : Authority} {left : List Char}
    (read : readAuthority (.special usual) last cs = .ok (a, left)) :
    readAuthority (.special usual) last' cs = .ok (a, left) :=
  readAuthority_ok.2 (readAuthority_ok.1 read)

/-- An authority of a special scheme needs a text. -/
lemma readAuthority_nil {a : Authority} {left : List Char} :
    readAuthority (.special usual) last [] ≠ .ok (a, left) := by
  intro read
  obtain ⟨host, port?, read, -⟩ := readAuthority_ok.1 read
  obtain ⟨-, nonempty, -⟩ := readHostPort_ok.1 read
  exact nonempty rfl

/-- A character at the end that is no at-sign belongs to what follows the user. -/
lemma splitUser_concat (plain : c ≠ '@') :
    splitUser (cs ++ [c]) = ((splitUser cs).1, (splitUser cs).2 ++ [c]) := by
  have dropped : (cs ++ [c]).reverse.dropWhile (· ≠ '@') = cs.reverse.dropWhile (· ≠ '@') := by
    simp [plain]
  have short : (cs.reverse.dropWhile (· ≠ '@')).reverse.length ≤ cs.length := by
    rw [List.length_reverse]
    exact Nat.le_trans (List.dropWhile_suffix _).length_le (Nat.le_of_eq List.length_reverse)
  unfold splitUser
  rw [dropped]
  split
  next => rfl
  next => rw [List.drop_append_of_le_length short]

/-- What follows the user stands in the authority. -/
lemma mem_of_mem_splitUser {x : Char} (mem : x ∈ (splitUser cs).2) : x ∈ cs := by
  unfold splitUser at mem
  split at mem
  · exact mem
  · exact List.mem_of_mem_drop mem

/-- A character at the end that is no colon belongs to the port if there is one, and else to the
host. -/
lemma splitHost_concat (plain : c ≠ ':') (inside : Bool) :
    splitHost inside (cs ++ [c]) =
      if (splitHost inside cs).2 = [] then ((splitHost inside cs).1 ++ [c], [])
      else ((splitHost inside cs).1, (splitHost inside cs).2 ++ [c]) := by
  induction cs generalizing inside with
  | nil => simp [splitHost, plain]
  | cons x xs ih =>
    rw [List.cons_append, splitHost, splitHost]
    split
    next => simp
    next =>
      -- what follows is read in a state of its own, which this character decides
      generalize (if x = '[' then true else if x = ']' then false else inside) = state
      rw [ih]
      by_cases done : (splitHost state xs).2 = []
      · rw [if_pos done, if_pos done, List.cons_append]
      · rw [if_neg done, if_neg done]

/-- A host and what follows it are cut apart and nothing is lost. -/
lemma splitHost_append (inside : Bool) (cs : List Char) :
    (splitHost inside cs).1 ++ (splitHost inside cs).2 = cs := by
  induction cs generalizing inside with
  | nil => rfl
  | cons x xs ih =>
    rw [splitHost]
    split
    · rfl
    · exact congrArg (x :: ·) (ih _)

/-- Digits with something else behind them are no port, unless a backslash ends them. -/
lemma readPort_concat {usual : Option Nat} (digit : isDigit c = false) (plain : c ≠ '\\')
    (slashless : '\\' ∉ cs) : readPort usual (cs ++ [c]) = .error .port := by
  have left : (cs ++ [c]).dropWhile isDigit ≠ [] := by
    intro nothing
    have all := List.dropWhile_eq_nil_iff.1 nothing c List.mem_concat_self
    rw [digit] at all
    exact Bool.false_ne_true all
  have wrong : ((cs ++ [c]).dropWhile isDigit).head? ≠ some '\\' := by
    intro head
    have mem := (List.dropWhile_suffix isDigit).subset (List.mem_of_mem_head? head)
    rcases List.mem_append.1 mem with mem | mem
    · exact slashless mem
    · exact plain (List.mem_singleton.1 mem).symm
  simp [readPort, left, wrong]

/-- A text without a backslash that ends in a blank or a control character is no authority. -/
lemma readAuthority_concat (blank : c.toNat ≤ 0x20) (slashless : '\\' ∉ cs) :
    ∃ e, readAuthority (.special usual) last (cs ++ [c]) = .error e := by
  cases read : readAuthority (.special usual) last (cs ++ [c]) with
  | error e => exact ⟨e, rfl⟩
  | ok found =>
    obtain ⟨host, port?, read, -⟩ := readAuthority_ok.1 read
    obtain ⟨host', -, name, -, port⟩ := readHostPort_ok.1 read
    rw [splitUser_concat (ne_of_blank blank (by decide))] at name port
    rw [splitHost_concat (ne_of_blank blank (by decide))] at name port
    split at name
    next alone =>
      obtain ⟨e, refused⟩ := Host.ofSpecial_concat blank (splitHost false (splitUser cs).2).1
      cases refused.symm.trans name
    next followed =>
      rw [if_neg followed] at port
      have digit : isDigit c = false := by
        simp [isDigit, not_le_of_blank blank]
      obtain ⟨x, rest, parts⟩ := List.exists_cons_of_ne_nil followed
      have slashless' : '\\' ∉ rest := by
        intro mem
        refine slashless (mem_of_mem_splitUser ?_)
        rw [← splitHost_append false (splitUser cs).2, parts]
        exact List.mem_append_right _ (List.mem_cons_of_mem x mem)
      rw [parts, List.cons_append, List.drop_one, List.tail_cons,
        readPort_concat digit (ne_of_blank blank (by decide)) slashless'] at port
      cases port

end ServiceClient.Url
