import ImportDispatch.Proofs.CommandLine.Arguments
/-!
# What the log tells about a password

A log shows a command line with the argument behind every `--password` masked.  The masking knows no more than the
argument before, so it is told from the arguments what it remembers behind them (`CommandLine.hidesNext`).  It takes a
user whose name is `--password` for the flag: then it masks the flag behind that name and shows the password.  For
every other user two passwords leave the same log, and for this one no two do (`CommandForm.logged_eq_iff`).
-/
namespace ImportDispatch
namespace CommandLine

/-! ## The memory of the masking -/

/-- Whether the argument behind `args` is masked, if the first one of them is masked or not. -/
def hidesNext (hide : Bool) (args : List Text) : Bool :=
  args.foldl (fun hide arg => !hide && arg == passwordFlag) hide

theorem maskedArgs_append (hide : Bool) (args more : List Text) :
    maskedArgs hide (args ++ more) = maskedArgs hide args ++ maskedArgs (hidesNext hide args) more := by
  induction args generalizing hide with
  | nil => simp [maskedArgs, hidesNext]
  | cons arg args ih =>
    cases hide with
    | true => simp [maskedArgs, hidesNext, ih]
    | false => simp [maskedArgs, hidesNext, ih]

/-- Behind any other flag the masking remembers nothing, so it goes by the value of that flag alone. -/
theorem hidesNext_setting {flag : Text} (hflag : flag ≠ passwordFlag) (hide : Bool) (args : List Text) (value : Text) :
    hidesNext hide (args ++ [flag, value]) = (value == passwordFlag) := by
  have hflag' : (flag == passwordFlag) = false := by simpa using hflag
  simp [hidesNext, List.foldl_append, hflag']

/-- A flag, a password and the argument behind them, behind a setting with this value. -/
def maskedPassword (value password next : Text) : List Text :=
  if value = passwordFlag then [mask, password, if password = passwordFlag then mask else next]
  else [passwordFlag, mask, next]

theorem maskedArgs_password {flag next : Text} (hflag : flag ≠ passwordFlag) (hnext : next ≠ passwordFlag)
    (front : List Text) (value password : Text) (rest : List Text) :
    maskedArgs false (front ++ [flag, value] ++ [passwordFlag, password, next] ++ rest) =
      maskedArgs false (front ++ [flag, value]) ++ maskedPassword value password next ++ maskedArgs false rest := by
  have hnext' : (next == passwordFlag) = false := by simpa using hnext
  rw [List.append_assoc _ [passwordFlag, password, next], maskedArgs_append, hidesNext_setting hflag, List.append_assoc,
    maskedPassword]
  refine congrArg _ ?_
  by_cases hvalue : value = passwordFlag
  · by_cases hpassword : password = passwordFlag
    · simp [hvalue, hpassword, maskedArgs]
    · have hpassword' : (password == passwordFlag) = false := by simpa using hpassword
      simp [hvalue, hpassword, maskedArgs, hpassword', hnext']
  · have hvalue' : (value == passwordFlag) = false := by simpa using hvalue
    simp [hvalue, maskedArgs, hvalue', hnext']

/-! ## As text -/

theorem text_middle (tool : Text) (front middle rest : List Text) :
    Text.join [' '] (tool :: (front ++ middle ++ rest)) =
      tool ++ front.flatMap ([' '] ++ ·) ++ middle.flatMap ([' '] ++ ·) ++ rest.flatMap ([' '] ++ ·) := by
  simp only [Text.join_cons, List.flatMap_append, List.append_assoc]

/-- A password that is shown can be read off, even the one that has the argument behind it masked: the mask ends in
another character than that argument. -/
theorem shown_password_inj {value p q next : Text} (hvalue : value = passwordFlag)
    (hnext : next.getLast? ≠ some '*')
    (h : (maskedPassword value p next).flatMap ([' '] ++ ·) = (maskedPassword value q next).flatMap ([' '] ++ ·)) :
    p = q := by
  have hlast {u v : Text} : u ++ ' ' :: mask ≠ v ++ ' ' :: next := by
    intro heq
    have hstar : (u ++ ' ' :: mask).getLast? = some '*' := by simp [mask]
    rw [heq, List.getLast?_append] at hstar
    cases next with
    | nil => simp at hstar
    | cons c next => exact hnext (by simpa using hstar)
  simp only [maskedPassword, if_pos hvalue, List.flatMap_cons, List.flatMap_nil, List.append_nil,
    List.append_cancel_left_eq, List.cons_append, List.cons.injEq, true_and] at h
  by_cases hp : p = passwordFlag
  · by_cases hq : q = passwordFlag
    · rw [hp, hq]
    · rw [if_pos hp, if_neg hq] at h
      exact absurd h hlast
  · by_cases hq : q = passwordFlag
    · rw [if_neg hp, if_pos hq] at h
      exact absurd h.symm hlast
    · rw [if_neg hp, if_neg hq] at h
      exact List.append_cancel_right h

end CommandLine

namespace CommandForm

open CommandLine (passwordFlag maskedPassword)

/-! ## Logs -/

def logged (form : CommandForm) (spec : ImportSpec) : Except ArgumentError Text :=
  (form.build spec).map CommandLine.maskedText

/-- Whether a form gives the user of an import, and the password with it. -/
def givesUser : CommandForm → ImportSpec → Bool
  | direct, _ => true
  | save _ _, _ => false
  | run _ _, spec => !Text.isBlank spec.username

/-- The imports whose logs show the password. -/
structure Shows (form : CommandForm) (spec : ImportSpec) : Prop where
  built : ∃ command, form.build spec = .ok command
  given : form.givesUser spec = true
  taken : spec.username = passwordFlag

theorem logged_withPassword (form : CommandForm) (spec : ImportSpec) (password : Text) :
    form.logged { spec with password } = (form.build spec).map fun _ =>
      CommandLine.maskedText ⟨form.tool, (form.arguments { spec with password }).flatMap Argument.args⟩ := by
  have hrequired : form.required { spec with password } = form.required spec := by cases form <;> rfl
  rw [logged, build_eq, build_eq, hrequired]
  split <;> rfl

/-- Where the user is given, the password stands right behind, and a flag or a separator behind it. -/
theorem arguments_password {form : CommandForm} {spec : ImportSpec} (hgiven : form.givesUser spec = true) :
    ∃ front rest next more, rest.flatMap Argument.args = next :: more ∧ next ≠ passwordFlag ∧
      next.getLast? ≠ some '*' ∧ ∀ password, password ≠ [] → form.arguments { spec with password } =
        front ++ [.setting "--username" spec.username, .setting "--password" password] ++ rest := by
  cases form with
  | direct =>
    refine ⟨[.setting "--connect" spec.jdbcUri, .setting "--table" spec.table],
      [.setting "--num-mappers" ['1']] ++ whenSet "--target-dir" spec.targetDir ++
        onlyIf spec.append [.switch ["--append"]] ++ [.setting "--connection-param-file" connectionParamsFile] ++
        whenSet "--driver" spec.driver ++ whenSet "--schema" spec.schema,
      "--num-mappers".toList, _, rfl, by decide, by decide, fun password hpassword => ?_⟩
    simp only [arguments, whenSet_of_ne_nil hpassword, List.append_assoc, List.cons_append, List.nil_append]
  | save metastore jobId => cases hgiven
  | run metastore jobId =>
    refine ⟨[.setting "--exec" jobId, .setting "--meta-connect" metastore, .switch ["--"]],
      .switch ["--"] ::
        onlyIf (!spec.schema.isEmpty) [.setting "--schema" spec.schema, .switch ["--"], .switch ["--"]],
      "--".toList, _, rfl, by decide, by decide, fun password hpassword => ?_⟩
    have huser : (!Text.isBlank spec.username) = true := hgiven
    rw [arguments, huser, whenSet_of_ne_nil hpassword]
    simp only [onlyIf, if_true, List.cons_append, List.nil_append]

theorem args_password {form : CommandForm} {spec : ImportSpec} (hgiven : form.givesUser spec = true) :
    ∃ front next rest, next ≠ passwordFlag ∧ next.getLast? ≠ some '*' ∧
      ∀ password, password ≠ [] → (form.arguments { spec with password }).flatMap Argument.args =
        front ++ ["--username".toList, spec.username] ++ [passwordFlag, password, next] ++ rest := by
  obtain ⟨front, rest, next, more, hrest, hnext, hlast, harguments⟩ := arguments_password hgiven
  refine ⟨front.flatMap Argument.args, next, more, hnext, hlast, fun password hpassword => ?_⟩
  have hsettings : [.setting "--username" spec.username, .setting "--password" password].flatMap Argument.args =
      ["--username".toList, spec.username] ++ [passwordFlag, password] := rfl
  rw [harguments password hpassword, List.flatMap_append, List.flatMap_append, hrest, hsettings]
  simp only [List.append_assoc, List.cons_append, List.nil_append]

theorem arguments_withPassword {form : CommandForm} {spec : ImportSpec} (hgiven : form.givesUser spec = false)
    (password : Text) : form.arguments { spec with password } = form.arguments spec := by
  cases form with
  | direct => cases hgiven
  | save metastore jobId => rfl
  | run metastore jobId =>
    have huser : (!Text.isBlank spec.username) = false := hgiven
    rw [arguments, arguments, huser]
    rfl

/-- **A log tells nothing about a password, unless it shows it**: then no two passwords leave the same log. -/
theorem logged_eq_iff (form : CommandForm) (spec : ImportSpec) {p q : Text} (hp : p ≠ []) (hq : q ≠ []) :
    form.logged { spec with password := p } = form.logged { spec with password := q } ↔
      p = q ∨ ¬ form.Shows spec := by
  rw [logged_withPassword, logged_withPassword]
  cases hbuilt : form.build spec with
  | error e =>
    refine iff_of_true rfl (.inr fun hshows => ?_)
    obtain ⟨command, hcommand⟩ := hshows.built
    rw [hbuilt] at hcommand
    cases hcommand
  | ok command =>
    by_cases hgiven : form.givesUser spec = true
    · obtain ⟨front, next, rest, hnext, hlast, hargs⟩ := args_password hgiven
      have hflag : "--username".toList ≠ passwordFlag := by decide
      simp only [Except.map, Except.ok.injEq, CommandLine.maskedText, hargs p hp, hargs q hq,
        CommandLine.maskedArgs_password hflag hnext, CommandLine.text_middle, List.append_cancel_right_eq,
        List.append_cancel_left_eq]
      constructor
      · intro heq
        by_cases htaken : spec.username = passwordFlag
        · exact .inl (CommandLine.shown_password_inj htaken hlast heq)
        · exact .inr fun hshows => htaken hshows.taken
      · rintro (rfl | hhidden)
        · rfl
        · have htaken : spec.username ≠ passwordFlag := fun htaken => hhidden ⟨⟨command, hbuilt⟩, hgiven, htaken⟩
          simp only [maskedPassword, if_neg htaken]
    · have hgiven' : form.givesUser spec = false := by simpa using hgiven
      rw [arguments_withPassword hgiven' p, arguments_withPassword hgiven' q]
      exact iff_of_true rfl (.inr fun hshows => hgiven hshows.given)

def importAs (username : Text) : ImportSpec where
  jdbcUri := "jdbc:mysql://db:3306/sales".toList
  table := "orders".toList
  username := username

theorem logged_eq_iff_importAs :
    CommandForm.direct.logged { importAs "john".toList with password := "secret".toList } =
        CommandForm.direct.logged { importAs "john".toList with password := "hidden".toList } ∧
      CommandForm.direct.logged { importAs passwordFlag with password := "secret".toList } ≠
        CommandForm.direct.logged { importAs passwordFlag with password := "hidden".toList } := by
  constructor
  · exact (logged_eq_iff .direct (importAs "john".toList) (by decide) (by decide)).2
      (.inr fun hshows => absurd hshows.taken (by decide))
  · intro heq
    rcases (logged_eq_iff .direct (importAs passwordFlag) (by decide) (by decide)).1 heq with hsame | hhidden
    · exact absurd hsame (by decide)
    · exact hhidden ⟨⟨_, rfl⟩, rfl, rfl⟩

/-- The log of a user called like the flag shows the password. -/
theorem not_logged_eq :
    ¬∀ (form : CommandForm) (spec : ImportSpec) (p q : Text), p ≠ [] → q ≠ [] →
      form.logged { spec with password := p } = form.logged { spec with password := q } := by
  intro h
  have heq := h .direct (importAs passwordFlag) "secret".toList "hidden".toList (by decide) (by decide)
  revert heq
  decide

end CommandForm
end ImportDispatch
