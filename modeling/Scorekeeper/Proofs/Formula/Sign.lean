import Mathlib.Data.List.Induction
import Scorekeeper.Formula.Sign

set_option autoImplicit false

/-!
# Resolved signs

Signs are judged by the tokens as they were given, of which some are dropped and others preceded by
a zero.  What is left has each plus and minus right after a number, a reference or a closing
parenthesis all the same, however many signs stood in a row, and is not changed any more.
-/

namespace Scorekeeper.Formula

inductive AfterOperand : List Token → Prop
  | number (before : List Token) (text : String) : AfterOperand (before ++ [.number text])
  | reference (before : List Token) (name : String) : AfterOperand (before ++ [.reference name])
  | closeParen (before : List Token) : AfterOperand (before ++ [.closeParen])

def SignsFollowOperands (tokens : List Token) : Prop :=
  ∀ before sign after, tokens = before ++ sign :: after →
    sign = .operator .plus ∨ sign = .operator .minus → AfterOperand before

/-- The result has all tokens in their order but for the unary plus signs, and besides them a zero
right before each unary minus. -/
inductive Resolves : List Token → List Token → Prop
  | nil : Resolves [] []
  | plus {before result : List Token} (earlier : Resolves before result)
      (unary : ¬ AfterOperand before) : Resolves (before ++ [.operator .plus]) result
  | minus {before result : List Token} (earlier : Resolves before result)
      (unary : ¬ AfterOperand before) :
      Resolves (before ++ [.operator .minus]) (result ++ [.number "0", .operator .minus])
  | kept {before result : List Token} {token : Token} (earlier : Resolves before result)
      (binary : token = .operator .plus ∨ token = .operator .minus → AfterOperand before) :
      Resolves (before ++ [token]) (result ++ [token])

theorem not_afterOperand_nil : ¬ AfterOperand [] := by
  intro after
  generalize same : ([] : List Token) = tokens at after
  cases after <;> simp at same

theorem afterOperand_concat {before : List Token} {token : Token} :
    AfterOperand (before ++ [token]) ↔ token.endsOperand = true := by
  constructor
  · intro after
    generalize same : before ++ [token] = tokens at after
    cases after <;> obtain ⟨-, rfl⟩ := List.append_singleton_inj.1 same <;> rfl
  · intro ends
    cases token with
    | number text => exact .number before text
    | reference name => exact .reference before name
    | closeParen => exact .closeParen before
    | _ => cases ends

theorem Token.isSign_iff {token : Token} :
    token.isSign = true ↔ token = .operator .plus ∨ token = .operator .minus := by
  cases token with
  | operator op => cases op <;> simp [isSign]
  | _ => simp [isSign]

theorem resolveSignsFrom_concat (afterOperand : Bool) (before : List Token) (token : Token) :
    resolveSignsFrom afterOperand (before ++ [token]) =
      resolveSignsFrom afterOperand before ++
        if token.isSign && !(before.getLast?.elim afterOperand Token.endsOperand)
        then token.signTokens else [token] := by
  induction before generalizing afterOperand with
  | nil => simp [resolveSignsFrom]
  | cons first rest ih =>
    have last : (first :: rest).getLast?.elim afterOperand Token.endsOperand =
        rest.getLast?.elim first.endsOperand Token.endsOperand := by
      rw [List.getLast?_cons]
      cases rest.getLast? <;> rfl
    rw [List.cons_append, resolveSignsFrom, resolveSignsFrom, ih, List.append_assoc, last]

theorem afterOperand_iff {before : List Token} :
    AfterOperand before ↔ before.getLast?.elim false Token.endsOperand = true := by
  cases before using List.reverseRecOn with
  | nil => exact iff_of_false not_afterOperand_nil Bool.false_ne_true
  | append_singleton before token => rw [afterOperand_concat, List.getLast?_concat, Option.elim]

theorem resolveSigns_of_unary {before : List Token} {token : Token} (sign : token.isSign = true)
    (unary : ¬ AfterOperand before) :
    resolveSigns (before ++ [token]) = resolveSigns before ++ token.signTokens := by
  rw [afterOperand_iff, Bool.not_eq_true] at unary
  rw [resolveSigns, resolveSignsFrom_concat, sign, unary]
  rfl

theorem resolveSigns_of_kept {before : List Token} {token : Token}
    (binary : token.isSign = true → AfterOperand before) :
    resolveSigns (before ++ [token]) = resolveSigns before ++ [token] := by
  rw [resolveSigns, resolveSignsFrom_concat, if_neg]
  · rfl
  · rw [Bool.and_eq_true, Bool.not_eq_true', ← Bool.not_eq_true, ← afterOperand_iff]
    exact fun unary => unary.2 (binary unary.1)

theorem resolves_iff {tokens result : List Token} :
    Resolves tokens result ↔ result = resolveSigns tokens := by
  constructor
  · intro resolves
    induction resolves with
    | nil => rfl
    | plus _ unary ih =>
      rw [resolveSigns_of_unary rfl unary, ih]
      exact (List.append_nil _).symm
    | minus _ unary ih =>
      rw [resolveSigns_of_unary rfl unary, ih]
      rfl
    | kept _ binary ih => rw [resolveSigns_of_kept (binary ∘ Token.isSign_iff.1), ih]
  · rintro rfl
    -- A token is judged by those before it, so the induction is on the tokens from their end.
    induction tokens using List.reverseRecOn with
    | nil => exact .nil
    | append_singleton before token ih =>
      by_cases kept : token.isSign = true → AfterOperand before
      · rw [resolveSigns_of_kept kept]
        exact .kept ih (kept ∘ Token.isSign_iff.2)
      · obtain ⟨sign, unary⟩ := Classical.not_imp.1 kept
        rw [resolveSigns_of_unary sign unary]
        rcases Token.isSign_iff.1 sign with rfl | rfl
        · rw [Token.signTokens, List.append_nil]
          · exact .plus ih unary
          · simp
        · exact .minus ih unary

theorem signsFollowOperands_concat {before : List Token} {token : Token} :
    SignsFollowOperands (before ++ [token]) ↔ SignsFollowOperands before ∧
      (token = .operator .plus ∨ token = .operator .minus → AfterOperand before) := by
  constructor
  · intro follow
    refine ⟨fun front sign back split => follow front sign (back ++ [token]) ?_,
      follow before token [] rfl⟩
    rw [split, List.append_assoc, List.cons_append]
  · rintro ⟨earlier, last⟩ front sign back split
    cases back using List.reverseRecOn with
    | nil =>
      obtain ⟨rfl, rfl⟩ := List.append_singleton_inj.1 split
      exact last
    | append_singleton back other =>
      rw [← List.cons_append, ← List.append_assoc] at split
      exact earlier front sign back (List.append_singleton_inj.1 split).1

theorem Resolves.signsFollowOperands {tokens result : List Token}
    (resolves : Resolves tokens result) :
    SignsFollowOperands result ∧ (AfterOperand tokens → AfterOperand result) := by
  induction resolves with
  | nil => exact ⟨by simp [SignsFollowOperands], id⟩
  | plus _ _ ih =>
    refine ⟨ih.1, fun after => ?_⟩
    cases afterOperand_concat.1 after
  | minus _ _ ih =>
    rw [List.append_cons, signsFollowOperands_concat, signsFollowOperands_concat]
    refine ⟨⟨⟨ih.1, by simp⟩, fun _ => .number _ "0"⟩, fun after => ?_⟩
    cases afterOperand_concat.1 after
  | kept _ binary ih =>
    refine ⟨signsFollowOperands_concat.2 ⟨ih.1, fun sign => ih.2 (binary sign)⟩, fun after => ?_⟩
    exact afterOperand_concat.2 (afterOperand_concat.1 after)

theorem Resolves.subset {tokens result : List Token} (resolves : Resolves tokens result) :
    result ⊆ .number "0" :: tokens := by
  have wider (before : List Token) (token : Token) :
      (Token.number "0" :: before) ⊆ .number "0" :: (before ++ [token]) :=
    List.cons_subset_cons _ (List.subset_append_left before [token])
  induction resolves with
  | nil => exact List.nil_subset _
  | plus _ _ ih => exact List.Subset.trans ih (wider _ _)
  | minus _ _ ih => exact List.append_subset.2 ⟨List.Subset.trans ih (wider _ _), by simp⟩
  | kept _ _ ih => exact List.append_subset.2 ⟨List.Subset.trans ih (wider _ _), by simp⟩

theorem SignsFollowOperands.resolves {tokens : List Token} (follow : SignsFollowOperands tokens) :
    Resolves tokens tokens := by
  induction tokens using List.reverseRecOn with
  | nil => exact .nil
  | append_singleton before token ih =>
    obtain ⟨earlier, last⟩ := signsFollowOperands_concat.1 follow
    exact .kept (ih earlier) last

theorem resolveSigns_eq_self_iff {tokens : List Token} :
    resolveSigns tokens = tokens ↔ SignsFollowOperands tokens := by
  rw [eq_comm, ← resolves_iff]
  exact ⟨fun resolves => resolves.signsFollowOperands.1, SignsFollowOperands.resolves⟩

theorem resolveSigns_settles (tokens : List Token) :
    SignsFollowOperands (resolveSigns tokens) ∧ Resolves tokens (resolveSigns tokens) ∧
      resolveSigns (resolveSigns tokens) = resolveSigns tokens := by
  have resolves : Resolves tokens (resolveSigns tokens) := resolves_iff.2 rfl
  have follow := resolves.signsFollowOperands.1
  exact ⟨follow, resolves, resolveSigns_eq_self_iff.2 follow⟩

example : resolveSigns [.number "2", .operator .times, .operator .minus, .operator .plus,
      .operator .minus, .reference "a", .operator .plus, .number "1"] =
    [.number "2", .operator .times, .number "0", .operator .minus, .number "0", .operator .minus,
      .reference "a", .operator .plus, .number "1"] := rfl

end Scorekeeper.Formula
