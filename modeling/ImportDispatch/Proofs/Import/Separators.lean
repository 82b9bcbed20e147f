import ImportDispatch.Proofs.Import.NormalForm
import ImportDispatch.Service.Request
/-!
# What becomes of the separator of an address

An address is a scheme, a separator and the rest: the host, and whatever a client puts behind it.  The normal form gives
it the separator of its dialect.  It looks for the other one all over the address, so that the rest stays as it is only
if the other separator does not stand there as well (`JobRequest.normal_separator`).  In `jdbc:mysql://root:@db/sales`
it does: the user there has no password.
-/
namespace ImportDispatch

/-! ## Dialects -/

def ownSeparator (oracle : Bool) : Text := if oracle then atSeparator else slashSeparator

def otherSeparator (oracle : Bool) : Text := if oracle then slashSeparator else atSeparator

/-- What stands before the separator of an address: the mark of Oracle, or `jdbc:` and a subprotocol. -/
inductive IsScheme (jdbcUri : Text) : Bool → Text → Prop
  | oracle : IsScheme jdbcUri true oracleMark
  | other {subprotocol : Text} (isOther : isOracleAddress jdbcUri = false)
    (plain : ∀ c ∈ subprotocol, c ≠ ':' ∧ c ≠ '/' ∧ c ≠ '@') : IsScheme jdbcUri false ("jdbc:".toList ++ subprotocol)

namespace IsScheme

variable {jdbcUri scheme rest : Text} {oracle : Bool}

/-- A scheme may hold colons, and nothing else that occurs in a separator. -/
theorem no_mark (h : IsScheme jdbcUri oracle scheme) : '/' ∉ scheme ∧ '@' ∉ scheme := by
  cases h with
  | oracle => decide
  | other _ plain =>
    simp only [List.mem_append, not_or]
    exact ⟨⟨by decide, fun hslash => (plain _ hslash).2.1 rfl⟩, by decide, fun hat => (plain _ hat).2.2 rfl⟩

theorem dialect (h : IsScheme jdbcUri oracle scheme) (hscheme : scheme <+: jdbcUri) :
    isOracleAddress jdbcUri = oracle := by
  cases h with
  | oracle => exact isOracleAddress_iff.2 ⟨oracleMark, hscheme.isInfix, by decide⟩
  | other isOther _ => exact isOther

end IsScheme

/-! ## Replacement behind a scheme -/

section

variable {scheme : Text} (oracle : Bool) (hscheme : '/' ∉ scheme ∧ '@' ∉ scheme) (rest : Text)
include hscheme

theorem replace_own :
    Text.replace (otherSeparator oracle) (ownSeparator oracle) (scheme ++ ownSeparator oracle ++ rest) =
      scheme ++ ownSeparator oracle ++ Text.replace (otherSeparator oracle) (ownSeparator oracle) rest := by
  cases oracle with
  | false =>
    have hfront : '@' ∉ scheme ++ slashSeparator := List.not_mem_append hscheme.2 (by decide)
    refine Text.replace_append_left [] slashSeparator hfront fun hlast => ?_
    rw [List.getLast?_append_of_ne_nil _ (by decide)] at hlast
    exact absurd hlast (by decide)
  | true =>
    have hfront : '/' ∉ scheme ++ atSeparator := List.not_mem_append hscheme.1 (by decide)
    refine Text.replace_append_left ['/'] atSeparator hfront fun hlast => ?_
    rw [List.getLast?_append_of_ne_nil _ (by decide)] at hlast
    exact absurd hlast (by decide)

theorem replace_other :
    Text.replace (otherSeparator oracle) (ownSeparator oracle) (scheme ++ otherSeparator oracle ++ rest) =
      scheme ++ ownSeparator oracle ++ Text.replace (otherSeparator oracle) (ownSeparator oracle) rest := by
  have hne : otherSeparator oracle ≠ [] := by cases oracle <;> decide
  rw [List.append_assoc, List.append_assoc, ← Text.replace_append hne]
  cases oracle with
  | false =>
    have hedge : some ':' ≠ some '@' := by decide
    exact Text.replace_append_left [] slashSeparator hscheme.2 fun _ => hedge
  | true =>
    have hedge : some ':' ≠ some '/' := by decide
    exact Text.replace_append_left ['/'] atSeparator hscheme.1 fun _ => hedge

end

theorem replace_eq_self_iff (oracle : Bool) (rest : Text) :
    Text.replace (otherSeparator oracle) (ownSeparator oracle) rest = rest ↔ ¬otherSeparator oracle <:+: rest := by
  constructor
  · intro h
    rw [← h]
    cases oracle with
    | false => exact no_ats_left rest
    | true => exact no_slashes_left rest
  · exact Text.replace_of_not_infix (by cases oracle <;> decide)

/-! ## Requests -/

theorem JobRequest.normal_jdbcUri (registry : Registry) (username : Text) (request : JobRequest) :
    (request.normal registry username).spec.jdbcUri =
      Text.replace (otherSeparator (isOracleAddress request.spec.jdbcUri))
        (ownSeparator (isOracleAddress request.spec.jdbcUri)) request.spec.jdbcUri := by
  obtain ⟨name, hspec⟩ := request.exists_normal_spec registry username
  rw [hspec]
  refine (request.spec.normal_jdbcUri registry).trans ?_
  cases isOracleAddress request.spec.jdbcUri <;> rfl

/-- **An address gets the separator of its dialect, and the rest of it stays as it is exactly if the other separator
does not stand there.**  An address that has its separator already is not spared. -/
theorem JobRequest.normal_separator {request : JobRequest} {oracle : Bool} {scheme separator rest : Text}
    (hscheme : IsScheme request.spec.jdbcUri oracle scheme)
    (hseparator : separator = ownSeparator oracle ∨ separator = otherSeparator oracle)
    (huri : request.spec.jdbcUri = scheme ++ separator ++ rest) (registry : Registry) (username : Text) :
    (request.normal registry username).spec.jdbcUri = scheme ++ ownSeparator oracle ++
        Text.replace (otherSeparator oracle) (ownSeparator oracle) rest ∧
      ((request.normal registry username).spec.jdbcUri = scheme ++ ownSeparator oracle ++ rest ↔
        ¬otherSeparator oracle <:+: rest) := by
  have hdialect : isOracleAddress request.spec.jdbcUri = oracle :=
    hscheme.dialect ⟨separator ++ rest, by rw [huri, List.append_assoc]⟩
  have hnormal : (request.normal registry username).spec.jdbcUri = scheme ++ ownSeparator oracle ++
      Text.replace (otherSeparator oracle) (ownSeparator oracle) rest := by
    rw [normal_jdbcUri, hdialect, huri]
    rcases hseparator with rfl | rfl
    · exact replace_own oracle hscheme.no_mark rest
    · exact replace_other oracle hscheme.no_mark rest
  refine ⟨hnormal, ?_⟩
  rw [hnormal, List.append_cancel_left_eq]
  exact replace_eq_self_iff oracle rest

/-- An import by a user that the address names, without a password. -/
def passwordlessJob : ImportJob where
  name := "nightly".toList
  spec := {
    jdbcUri := "jdbc:mysql://root:@db:3306/sales".toList
    table := "orders".toList
    importMode := "append".toList }

theorem isScheme_mysql {jdbcUri : Text} (isOther : isOracleAddress jdbcUri = false) :
    IsScheme jdbcUri false "jdbc:mysql".toList := by
  have hplain : ∀ c ∈ ['m', 'y', 's', 'q', 'l'], c ≠ ':' ∧ c ≠ '/' ∧ c ≠ '@' := by simp
  exact .other isOther hplain

theorem JobRequest.normal_separator_passwordlessJob :
    ((once passwordlessJob).normal [] fallbackUsername).spec.jdbcUri = "jdbc:mysql".toList ++ slashSeparator ++
        Text.replace atSeparator slashSeparator "root:@db:3306/sales".toList ∧
      (((once passwordlessJob).normal [] fallbackUsername).spec.jdbcUri =
          "jdbc:mysql".toList ++ slashSeparator ++ "root:@db:3306/sales".toList ↔
        ¬atSeparator <:+: "root:@db:3306/sales".toList) :=
  normal_separator (isScheme_mysql (by decide)) (.inl rfl) rfl [] fallbackUsername

/-- Not even an address that has the separator of its dialect stays as it is. -/
theorem JobRequest.not_own_separator_kept : ¬∀ (registry : Registry) (username : Text) (request : JobRequest)
    (oracle : Bool) (scheme rest : Text), IsScheme request.spec.jdbcUri oracle scheme →
      request.spec.jdbcUri = scheme ++ ownSeparator oracle ++ rest →
      (request.normal registry username).spec.jdbcUri = request.spec.jdbcUri := by
  intro h
  have hkept := h [] fallbackUsername (once passwordlessJob) false "jdbc:mysql".toList "root:@db:3306/sales".toList
    (isScheme_mysql (by decide)) rfl
  have hother := (passwordlessJob.spec.isNormal_normal []).other
  rw [show (passwordlessJob.spec.normal []).jdbcUri = passwordlessJob.spec.jdbcUri from hkept] at hother
  exact hother (by decide) (by decide)

end ImportDispatch
