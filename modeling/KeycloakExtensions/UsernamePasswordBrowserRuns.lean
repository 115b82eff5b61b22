import KeycloakExtensions.UsernamePasswordBrowser
import KeycloakExtensions.UsernamePasswordCaptcha

/-! # What a browser can reach

Runs of the login page against `validateForm`, from any stage. A password can be tried without
a confirmed captcha once on each page that was loaded, and once after each lockout; from a page
without the login modes nobody logs in. -/
namespace UsernamePasswordBrowserRuns

open KeycloakModel LibraryEffects LibraryRuns UsernamePasswordForm UsernamePasswordExits
  UsernamePasswordLogin UsernamePasswordCaptcha UsernamePasswordBrowser

variable {response page : Response} {a : Attempt} {t : LoginState} {s : Stage} {move : Move}

/-! ## Acceptance -/

theorem reply_asking {prompt shown : Prompt} {facts : Facts}
    (h : prompt.reply facts = .asking shown) :
    shown.guarded = true ∨ shown.message = some tooManyAttempts := by
  simp only [Prompt.reply] at h
  split at h
  · cases h
    exact Or.inl rfl
  split at h
  · cases h
  split at h
  · cases h
    exact Or.inr rfl
  · cases hc : facts.check <;> rw [hc] at h <;> cases h <;> exact Or.inl rfl

/-- The page that answers an attempt offers the captcha unless it tells of a lockout. -/
theorem answer_guarded (plain : PlainForm a) (shown : submit response a = .showing page) :
    offersCaptcha page = true ∨ page.page.error = some tooManyAttempts := by
  obtain ⟨user, ex, hx⟩ := submit_render plain response
  have hview := view_render (a.env.resolveLocale user) ex ((promptOf response).reply (factsOf a))
  rw [← hx, shown] at hview
  exact reply_asking (Option.some.inj hview).symm

/-- A page that is shown after a post answers it. -/
theorem answer_of_post (shown : nextStage s (.post a) = .showing page) :
    ∃ response, s = .showing response ∧ submit response a = .showing page := by
  cases s with
  | showing response => exact ⟨response, rfl, shown⟩
  | accepted => cases shown
  | unanswered => cases shown
  | crashed ex => cases shown

theorem not_unverifiedMode (response : Response) (a : Attempt) :
    ¬ UnverifiedMode a.env (received response a) := by
  intro hcase
  rcases hcase with ⟨_, _, mode, first, notLocal, notLdap⟩
  exact not_other_mode first notLocal notLdap

/-- Past the gate of a page with the captcha, the token is in the form and confirmed. -/
theorem confirmed_of_offered (passes : CaptchaPasses a.env (received response a).formData)
    (offered : offersCaptcha response = true) :
    TokenConfirmed a.env (received response a).formData := by
  have hg := captchaPasses_iff.mp passes
  have hc : (factsOf a).confirmed = true := by
    simpa [offered] using hg
  obtain ⟨hblank, haccepts⟩ := (Bool.and_eq_true_iff).mp hc
  have hfirst : getFirst (received response a).formData gRecaptchaResponse =
      some a.entries.captcha := by
    rw [received, getFirst_captcha, if_pos offered]
  exact ⟨a.entries.captcha, hfirst, (Bool.not_eq_true' _).mp hblank,
    serviceConfirms_of_accepts haccepts⟩

/-- No attempt has been posted since the page was loaded. -/
def JustLoaded (moves : List Move) : Prop := ∀ a, moves.getLast? ≠ some (.post a)

theorem reached_page_guarded {moves : List Move} (plain : ∀ move ∈ moves, move.Plain)
    (answered : ¬ JustLoaded moves) (shown : browser.run s moves = .showing page) :
    offersCaptcha page = true ∨ page.page.error = some tooManyAttempts := by
  rcases List.eq_nil_or_concat' moves with rfl | ⟨before, last, rfl⟩
  · exact (answered fun a h => by cases h).elim
  · cases last with
    | load form => exact (answered fun a h => by simp at h).elim
    | post b =>
      rw [Machine.run_append] at shown
      obtain ⟨response, _, hanswer⟩ := answer_of_post shown
      have hb : PlainForm b := plain (.post b) (by simp)
      exact answer_guarded hb hanswer

/-- Whoever logs in from the page had a credential checked and was not locked out; and, unless
the page was just loaded or tells of a lockout, the service confirmed the captcha that came with
this very attempt. -/
theorem accepted_attempt_guarded (s : Stage) (page : Response) (moves : List Move) (a : Attempt)
    (plain : ∀ move ∈ moves, move.Plain) (shown : browser.run s moves = .showing page)
    (accepted : exec (validateForm a.env) (received page a) = (.ok true, t)) :
    CredentialChecked a.env (received page a) t ∧ ¬ LocksOut a.env a.context ∧
      (JustLoaded moves ∨ page.page.error = some tooManyAttempts ∨
        TokenConfirmed a.env (received page a).formData) := by
  obtain ⟨checked, unlocked⟩ := accepted_sound (not_unverifiedMode page a) accepted
  refine ⟨checked, unlocked, ?_⟩
  by_cases loaded : JustLoaded moves
  · exact Or.inl loaded
  have passes := (accepted_iff.mp accepted).1
  rcases reached_page_guarded plain loaded shown with offered | lockout
  · exact Or.inr (Or.inr (confirmed_of_offered passes offered))
  · exact Or.inr (Or.inl lockout)

/-- The page is the answer to a wrong password. -/
theorem second_try_guarded : ∃ page t,
    CredentialChecked rejectingEnv (received page ldapTry) t ∧
      ¬ LocksOut rejectingEnv ldapTry.context ∧
      (JustLoaded [.load blankForm, .post wrongTry] ∨ page.page.error = some tooManyAttempts ∨
        TokenConfirmed rejectingEnv (received page ldapTry).formData) :=
  ⟨_, _, accepted_attempt_guarded .accepted _ [.load blankForm, .post wrongTry] ldapTry
    (by simp [Move.Plain, wrongTry_plain]) rfl (Prod.ext (by rfl) rfl)⟩

/-! ## Tries without a captcha -/

/-- The attempt has its credentials checked although no captcha was confirmed with it: the page
offers none, or the one that was entered is not confirmed. -/
def unconfirmedTry : Stage → Move → ℕ
  | .showing response, .post a =>
    if .superValidateForm ∈ (exec (validateForm a.env) (received response a)).2.calls ∧
        (offersCaptcha response && (factsOf a).confirmed) = false then 1 else 0
  | _, _ => 0

/-- A page is loaded, or the attempt is answered with the page of a lockout. -/
def unguardedPage (s : Stage) : Move → ℕ
  | .load _ => 1
  | .post a =>
    match nextStage s (.post a) with
    | .showing response => if response.page.error = some tooManyAttempts then 1 else 0
    | _ => 0

/-- What the shown page leaves open. -/
def openTries : Stage → ℕ
  | .showing response => if offersCaptcha response then 0 else 1
  | _ => 0

theorem openTries_le (s : Stage) : openTries s ≤ 1 := by
  cases s with
  | showing response =>
    simp only [openTries]
    split <;> omega
  | accepted => exact Nat.zero_le 1
  | unanswered => exact Nat.zero_le 1
  | crashed ex => exact Nat.zero_le 1

theorem checks_pass_gate
    (h : .superValidateForm ∈ (exec (validateForm a.env) (received response a)).2.calls) :
    CaptchaPasses a.env (received response a).formData := by
  by_contra blocked
  obtain ⟨t, hx, closed⟩ := blocked_failsClosed blocked
  rw [hx] at h
  exact closed.unchecked .superValidateForm ⟨t.calls, rfl, h⟩ trivial

theorem unconfirmedTry_le (s : Stage) (move : Move) : unconfirmedTry s move ≤ openTries s := by
  cases s with
  | showing response =>
    cases move with
    | load form => exact Nat.zero_le _
    | post a =>
      simp only [unconfirmedTry, openTries]
      split
      next h =>
        obtain ⟨hcalled, hunconfirmed⟩ := h
        have hg := captchaPasses_iff.mp (checks_pass_gate hcalled)
        have hopen : offersCaptcha response = false := by
          cases ho : offersCaptcha response with
          | false => rfl
          | true =>
            rw [ho, Bool.true_and] at hunconfirmed hg
            rw [hunconfirmed] at hg
            cases hg
        simp [hopen]
      next => exact Nat.zero_le _
  | accepted => exact le_rfl
  | unanswered => exact le_rfl
  | crashed ex => exact le_rfl

theorem openTries_next_le (plain : move.Plain) (s : Stage) :
    openTries (nextStage s move) ≤ unguardedPage s move := by
  cases move with
  | load form => exact openTries_le _
  | post a =>
    simp only [unguardedPage]
    cases hn : nextStage s (.post a) with
    | showing page =>
      obtain ⟨response, _, hanswer⟩ := answer_of_post hn
      rcases answer_guarded plain hanswer with h | h
      · simp [openTries, h]
      · simp only [h, if_true]
        exact openTries_le _
    | accepted => exact le_rfl
    | unanswered => exact le_rfl
    | crashed ex => exact le_rfl

/-- In every run of the browser, whoever the users, at most one password is tried without a
confirmed captcha on the page it starts from, and one more for each page that is loaded and
for each lockout page. -/
theorem unconfirmed_tries_bounded (s : Stage) (moves : List Move)
    (plain : ∀ move ∈ moves, move.Plain) :
    browser.total unconfirmedTry s moves ≤ 1 + browser.total unguardedPage s moves := by
  have covered (s : Stage) (move : Move) (hp : move.Plain) :
      unconfirmedTry s move + openTries (browser.next s move) ≤
        openTries s + unguardedPage s move := by
    have htry := unconfirmedTry_le s move
    have hopen := openTries_next_le hp s
    change _ + openTries (nextStage s move) ≤ _
    omega
  have hrun := Machine.total_le covered (Machine.along_of_forall (M := browser) plain s)
  have hstart := openTries_le s
  omega

theorem second_try_bounded : browser.total unconfirmedTry (.showing ⟨blankForm⟩) secondTry ≤
    1 + browser.total unguardedPage (.showing ⟨blankForm⟩) secondTry :=
  unconfirmed_tries_bounded (.showing ⟨blankForm⟩) secondTry secondTry_plain

/-! ## The page without login modes -/

theorem run_crashed (ex : JavaException) (posts : List Attempt) :
    browser.run (.crashed ex) (posts.map .post) = .crashed ex := by
  induction posts with
  | nil => rfl
  | cons a posts ih => exact ih

/-- Past the gate, such a submission throws. -/
theorem submit_hidden (hidden : response.page.usernameHidden = true)
    (passes : CaptchaPasses a.env (formData response a.entries)) :
    submit response a = .crashed .nullPointer := by
  have missing : getFirst (received response a).formData "radio" = none := by
    rw [received, getFirst_radio, hidden]
    rfl
  rw [submit, validateForm_of_ends (.noRadio passes missing)]
  rfl

/-- Nobody logs in from a page that hides the username: the attempt is refused at the captcha,
which is all it is told about, or it throws and nothing that is posted leads on. -/
theorem hidden_username_never_accepted (response : Response)
    (hidden : response.page.usernameHidden = true) (a : Attempt) :
    submit response a ≠ .accepted ∧
    (offersCaptcha response = true → (factsOf a).confirmed = false →
      ∃ t, exec (validateForm a.env) (received response a) = (.ok false, t) ∧
        FailsClosed (received response a) t) ∧
    ((offersCaptcha response = true → (factsOf a).confirmed = true) →
      ∀ posts : List Attempt, browser.run (.showing response) (.post a :: posts.map .post) =
        .crashed .nullPointer) := by
  refine ⟨?_, ?_, ?_⟩
  · intro haccepted
    by_cases passes : CaptchaPasses a.env (received response a).formData
    · rw [submit_hidden hidden passes] at haccepted
      cases haccepted
    · obtain ⟨t, hx, _⟩ := blocked_failsClosed passes
      rw [submit, hx, stageAfter, answer] at haccepted
      split at haccepted <;> cases haccepted
  · intro offered unconfirmed
    apply blocked_failsClosed
    rw [received, captchaPasses_iff, offered, unconfirmed]
    decide
  · intro confirmed posts
    have passes : CaptchaPasses a.env (formData response a.entries) := by
      rw [captchaPasses_iff]
      cases ho : offersCaptcha response with
      | false => rfl
      | true => rw [confirmed ho]; rfl
    have hfirst : nextStage (.showing response) (.post a) = .crashed .nullPointer :=
      submit_hidden hidden passes
    exact (congrArg (fun s => browser.run s (posts.map .post)) hfirst).trans
      (run_crashed .nullPointer posts)

def hiddenPage : Response := ⟨{ blankForm with usernameHidden := true }⟩

theorem first_hidden_attempt_throws :
    browser.run (.showing hiddenPage) [.post wrongTry, .post ldapTry] = .crashed .nullPointer := by
  have unguarded : offersCaptcha hiddenPage = true → (factsOf wrongTry).confirmed = true := by
    intro offered
    exact absurd offered (by decide)
  exact (hidden_username_never_accepted hiddenPage rfl wrongTry).2.2 unguarded [ldapTry]

/-! ## What the pages reveal -/

/-- The attempt meets a new form, and one language for all users. -/
def SameLanguage (tag : String) (a : Attempt) : Prop :=
  PlainForm a ∧ ∀ user, a.env.resolveLocale user = tag

/-- The same page is loaded, or attempts are posted of which the same facts hold. -/
inductive SameFacts (tag : String) : Move → Move → Prop where
  | load (form : LoginFormsProvider) : SameFacts tag (.load form) (.load form)
  | post {a b : Attempt} (left : SameLanguage tag a) (right : SameLanguage tag b)
      (facts : factsOf a = factsOf b) : SameFacts tag (.post a) (.post b)

/-- The same page is shown, or both throw. -/
def LookAlike (s s' : Stage) : Prop := s = s' ∨ ∃ ex ex', s = .crashed ex ∧ s' = .crashed ex'

theorem render_lookAlike (tag : String) (ex ex' : JavaException) (d : Dialogue) :
    LookAlike (render tag ex d) (render tag ex' d) := by
  cases d with
  | asking prompt => exact Or.inl rfl
  | loggedIn => exact Or.inl rfl
  | broken => exact Or.inr ⟨ex, ex', rfl, rfl⟩

theorem next_lookAlike {tag : String} {s' : Stage} {move' : Move} (alike : LookAlike s s')
    (same : SameFacts tag move move') : LookAlike (nextStage s move) (nextStage s' move') := by
  cases same with
  | load form => exact Or.inl rfl
  | post left right facts =>
    rcases alike with rfl | ⟨ex, ex', rfl, rfl⟩
    · cases s with
      | showing response =>
        obtain ⟨user, ex, hx⟩ := submit_render left.1 response
        obtain ⟨user', ex', hx'⟩ := submit_render right.1 response
        rw [left.2] at hx
        rw [right.2, ← facts] at hx'
        rw [nextStage, nextStage, hx, hx']
        exact render_lookAlike tag ex ex' _
      | accepted => exact Or.inl rfl
      | unanswered => exact Or.inl rfl
      | crashed ex => exact Or.inl rfl
    · exact Or.inr ⟨ex, ex', rfl, rfl⟩

/-- Two runs with the same page loads, whose attempts agree on the facts, end on the same page,
or both throw: whatever else the attempts differ in, the pages depend on these facts only. -/
theorem pages_reveal_facts_only (tag : String) (s : Stage) (moves moves' : List Move)
    (same : List.Forall₂ (SameFacts tag) moves moves') :
    LookAlike (browser.run s moves) (browser.run s moves') := by
  have keep (s s' : Stage) (move move' : Move) (alike : LookAlike s s')
      (hm : SameFacts tag move move') :
      LookAlike (browser.next s move) (browser.next s' move') := next_lookAlike alike hm
  exact Machine.run_related keep (Or.inl rfl) same

def unknownTry : Attempt :=
  entered { rejectingEnv with superValidateUser := ⟨none, id⟩ } .ldapLogin "secret" ""

/-- A wrong local password and an unknown LDAP user. -/
theorem wrong_and_unknown_look_alike :
    LookAlike (browser.run .accepted [.load blankForm, .post wrongTry])
      (browser.run .accepted [.load blankForm, .post unknownTry]) := by
  have wrong : SameLanguage "tr" wrongTry := ⟨wrongTry_plain, fun _ => rfl⟩
  have unknown : SameLanguage "tr" unknownTry :=
    ⟨⟨rfl, rfl, fun _ => rfl, fun _ => rfl⟩, fun _ => rfl⟩
  exact pages_reveal_facts_only "tr" .accepted _ _
    (.cons (.load blankForm) (.cons (.post wrong unknown (by rfl)) .nil))

end UsernamePasswordBrowserRuns
