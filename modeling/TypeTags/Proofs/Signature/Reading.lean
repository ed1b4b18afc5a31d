import TypeTags.Signature.Parse

/-!
# Running parsers on known tokens

Equations for the small parsers on a list of tokens whose head is known, so that a rule of the
grammar is run by rewriting.
-/

namespace TypeTags

@[simp] theorem Outcome.after_nil {α : Type} (o : Outcome α) : o.after [] = o := by
  cases o <;> rfl

namespace Parser

variable {α β : Type} (s : Source) (t : Token) (ts : List Token)

@[simp] theorem pure_run (a : α) : (pure a : Parser α) s ts = .ok a ts [] := rfl

/-- The equation of a sequence; together with those of the parts it runs a rule. -/
@[simp] theorem bind_run (p : Parser α) (f : α → Parser β) :
    (p >>= f) s ts = match p s ts with
      | .ok a rest notes => (f a s rest).after notes
      | .fail fault notes => .fail fault notes := rfl

/-- A sequence whose first part is known to succeed. -/
theorem bind_ok {s : Source} {ts rest : List Token} {p : Parser α} {f : α → Parser β} {a : α}
    {notes : List UnclosedProc} (h : p s ts = .ok a rest notes) :
    (p >>= f) s ts = (f a s rest).after notes := by
  rw [bind_run, h]

theorem bind_fail {s : Source} {ts : List Token} {p : Parser α} {f : α → Parser β} {cause : Fault}
    {notes : List UnclosedProc} (h : p s ts = .fail cause notes) :
    (p >>= f) s ts = .fail cause notes := by
  rw [bind_run, h]

@[simp] theorem source_run : source s ts = .ok s ts [] := rfl

@[simp] theorem tokens_run : tokens s ts = .ok ts ts [] := rfl

@[simp] theorem resume_run (rest : List Token) : resume rest s ts = .ok () rest [] := rfl

@[simp] theorem fault_run (cause : Cause) (offset : Nat) :
    (fault cause offset : Parser α) s ts = .fail ⟨cause, some offset⟩ [] := rfl

@[simp] theorem note_run (proc : UnclosedProc) : note proc s ts = .ok () ts [proc] := rfl

/-- The token in front, which is the end mark if there is none. -/
def front : Token := ts.headD (.endMark s.boundary 0)

@[simp] theorem front_cons : front s (t :: ts) = t := rfl

@[simp] theorem front_nil : front s [] = .endMark s.boundary 0 := rfl

@[simp] theorem peekAt_run (n : Nat) : peekAt n s ts = .ok (front s (ts.drop n)) ts [] := rfl

@[simp] theorem peek_run : peek s ts = .ok (front s ts) ts [] := rfl

@[simp] theorem advance_run : advance s ts = .ok (front s ts) ts.tail [] := by
  simp [advance]

@[simp] theorem atEnd_run : atEnd s ts = .ok ts.isEmpty ts [] := by
  simp [atEnd]

theorem accept_run (kind : TokenKind) :
    accept kind s ts =
      if (front s ts).kind = kind then .ok true ts.tail [] else .ok false ts [] := by
  unfold accept
  rw [bind_run, peek_run]
  simp only [Outcome.after_nil]
  split <;> simp

theorem expect_run (kind : TokenKind) (wanted : Wanted) :
    expect kind wanted s ts = if (front s ts).kind = kind then .ok (front s ts) ts.tail []
      else .fail ⟨.expected wanted (front s ts).value, some (front s ts).start⟩ [] := by
  unfold expect
  rw [bind_run, peek_run]
  simp only [Outcome.after_nil]
  split <;> simp

/-- What follows a constant path is the end of the tokens. -/
theorem pathTail_suffix (ts : List Token) : (pathTail ts).2 <:+ ts := by
  induction ts using pathTail.induct with
  | case1 a b ts hk segments rest he ih =>
    simp only [pathTail, hk, and_self, if_true]
    exact ih.trans ((List.suffix_cons _ _).trans (List.suffix_cons _ _))
  | case2 a b ts hk =>
    simp only [pathTail, hk, if_false]
    exact List.suffix_refl _
  | case3 ts h =>
    match ts with
    | [] => exact List.suffix_refl _
    | [t] => exact List.suffix_refl _
    | a :: b :: ts => exact absurd rfl (h a b ts)

end Parser

end TypeTags
