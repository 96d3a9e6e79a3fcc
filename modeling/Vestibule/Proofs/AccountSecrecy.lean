import Vestibule.Proofs.Noninterference

/-! What a visitor finds out about accounts before a password is compared: nothing. Two stores that
differ in their users are told apart by no request without a password, nor by a login with an email
that does not name one user. -/

namespace Vestibule

namespace Store

/-- The stores differ in their users, if at all. -/
def SameButUsers (s t : Store) : Prop := { s with users := t.users } = t

/-- These are the users of the one store and of the other, which are the same otherwise. -/
def WithUsers (here there : Table User User.id) (s t : Store) : Prop :=
  s.users = here ∧ { s with users := there } = t

variable {s t : Store} {here there : Table User User.id} {p : Uuid} {email : String}

theorem WithUsers.sameButUsers (apart : WithUsers here there s t) :
    t.users = there ∧ s.SameButUsers t := by
  obtain ⟨_, rfl⟩ := apart
  exact ⟨rfl, rfl⟩

/-- Users show in nothing else of a project. -/
theorem WithUsers.likeness : Store.Likeness p (WithUsers here there) where
  project? := by
    rintro s _ ⟨_, rfl⟩
    rfl
  organization? := by
    rintro s _ ⟨_, rfl⟩ _
    rfl
  samlConnection? := by
    rintro s _ ⟨_, rfl⟩ _
    rfl
  oidcConnection? := by
    rintro s _ ⟨_, rfl⟩ _
    rfl
  intermediateSession? := by
    rintro s _ ⟨_, rfl⟩ _
    rfl
  isEmailVerifiedByProvider := by
    rintro s _ ⟨_, rfl⟩ _ _ _
    rfl
  emailUsageOn := by
    rintro s _ ⟨_, rfl⟩ _
    rfl
  countEmail := by
    rintro s _ ⟨listed, rfl⟩ date
    simp only [countEmail]
    split <;> exact ⟨listed, rfl⟩
  recordVerifiedEmail := by
    rintro s _ ⟨listed, rfl⟩ e _
    simp only [recordVerifiedEmail]
    split <;> exact ⟨listed, rfl⟩
  withIntermediateSession := by
    rintro s _ ⟨listed, rfl⟩ _ _ _ _
    exact ⟨listed, rfl⟩
  logged := by
    rintro s _ ⟨listed, rfl⟩ _
    exact ⟨listed, rfl⟩

end Store

namespace Operation

variable {I : Interface} {α β : Type} {turns : List (Turn I)} {turn : Turn I} {s : Store}

theorem play_finish {result : Except RequestError α} :
    (finish result : Operation I α).play turns s = ([], finish result, s) := by
  cases turns <;> rfl

/-- A transaction that fails ends the operation and writes nothing. -/
theorem play_of_fails {body : Transaction β} {next : β → Operation I α} {e : RequestError}
    (failed : body.Fails turn.moment s e) :
    (transact body next).play (turn :: turns) s = ([], finish (.error e), s) := by
  have stepped : (transact body next).step? turn s =
      some (.failed turn.moment s e, finish (.error e), s) := step?_eq_some.mpr (.failed failed)
  simp only [play, stepped, play_finish]
  rfl

end Operation

open Transaction

section

variable {v : Service} {c : RequestContext} {m : Moment} {s t : Store} {l : Loaded}
  {email : String}

/-- None and several are answered alike. -/
theorem Linking.uniqueForPassword_fails {p : Uuid}
    (ambiguous : (s.passwordLoginCandidates p email).length ≠ 1) :
    (uniqueForPassword p email).Fails m s .passwordsUnavailable := by
  simp only [uniqueForPassword, fails_bind, fails_get, commits_get, false_or, and_assoc,
    exists_and_left, exists_eq_left, Store.filter_passwordLoginCandidates]
  split
  · rename_i u only
    exact absurd (congrArg List.length only) ambiguous
  · exact fails_fail.mpr rfl

namespace Service

/-- Without a user of its own a direct login fails, and neither the password nor the users tell
how. -/
theorem verifyDirect_fails (v : Service) (c : RequestContext) (m : Moment) (l : Loaded)
    (email : String) :
    ∃ e, ∀ s password, (s.passwordLoginCandidates l.project.id email).length ≠ 1 →
      (v.verifyDirect c l email password).Fails m s e := by
  simp only [verifyDirect, fails_bind, fails_ite, fails_deny, fails_refuse]
  -- The session and its tenants tell which gate refuses, before any user is looked at.
  by_cases bound : l.session.organizationId.isSome = true
  · refine ⟨.failedPrecondition .organizationBound, fun s password _ => ?_⟩
    rw [if_pos bound]
    exact .inl rfl
  have gate : (l.requireMethod .password).Detached := Loaded.requireMethod_detached
  rcases gate m with ⟨_, allowed⟩ | ⟨e, disabled⟩
  · by_cases other : l.session.email.any (· ≠ email) = true
    · refine ⟨.invalidArgument .emailMismatch, fun s password _ => ?_⟩
      rw [if_neg bound]
      refine .inr ⟨_, s, allowed s, ?_⟩
      rw [if_pos other]
      exact .inl rfl
    · refine ⟨.passwordsUnavailable, fun s password ambiguous => ?_⟩
      rw [if_neg bound]
      refine .inr ⟨_, s, allowed s, ?_⟩
      rw [if_neg other]
      exact .inl (Linking.uniqueForPassword_fails ambiguous)
  · refine ⟨e, fun s password _ => ?_⟩
    rw [if_neg bound]
    exact .inl (disabled s)

/-- Two stores that differ in their users refuse such a login with the same error. -/
theorem verifyPasswordBody_fails (apart : s.SameButUsers t) (m : Moment)
    (ambiguous : (s.passwordLoginCandidates c.projectId email).length ≠ 1)
    (ambiguous' : (t.passwordLoginCandidates c.projectId email).length ≠ 1) :
    ∃ e, ∀ password, (v.verifyPasswordBody c (some email) password).Fails m s e ∧
      (v.verifyPasswordBody c (some email) password).Fails m t e := by
  have like : Store.WithUsers s.users t.users s t := ⟨rfl, apart⟩
  rcases Store.WithUsers.likeness.load (c := c) (m := m) like with
    ⟨l, s', t', here, there, _⟩ | ⟨e, here, there⟩
  · obtain ⟨rfl, admitted⟩ := Loaded.load_commits.mp here
    obtain ⟨rfl, _⟩ := Loaded.load_commits.mp there
    obtain ⟨e, fails⟩ := verifyDirect_fails v c m l email
    rw [← admitted.project_id] at ambiguous ambiguous'
    refine ⟨e, fun password => ?_⟩
    simp only [verifyPasswordBody, fails_bind]
    exact ⟨.inr ⟨l, _, here, .inl (fails _ password ambiguous)⟩,
      .inr ⟨l, _, there, .inl (fails _ password ambiguous')⟩⟩
  · refine ⟨e, fun password => ?_⟩
    simp only [verifyPasswordBody, fails_bind]
    exact ⟨.inl here, .inl there⟩

/-- Before a password is compared nobody learns which accounts there are. On stores that differ in
their users only, a request without a password asks the same of outside services, ends the same and
leaves stores that again differ in their users only, and it writes none; and where an email names no
user who may log in with it, or several, a login with it fails with an error that depends neither
on the users nor on the password, and writes nothing. -/
theorem keepsAccountsSecret (apart : s.SameButUsers t) :
    (∀ request salt turns, request.looksUpUsers = false →
      let here := (v.perform c salt request).play turns s
      let there := (v.perform c salt request).play turns t
      here.1 = there.1 ∧ here.2.1 = there.2.1 ∧ here.2.2.SameButUsers there.2.2 ∧
        here.2.2.users = s.users ∧ there.2.2.users = t.users) ∧
    ∀ email, (s.passwordLoginCandidates c.projectId email).length ≠ 1 →
      (t.passwordLoginCandidates c.projectId email).length ≠ 1 → ∀ turn turns, ∃ e,
        ∀ salt password,
          let login := v.perform c salt (.verifyPassword (some email) password)
          login.play (turn :: turns) s = ([], .finish (.error e), s) ∧
            login.play (turn :: turns) t = ([], .finish (.error e), t) := by
  constructor
  · intro request salt turns userless
    have like : Store.WithUsers s.users t.users s t := ⟨rfl, apart⟩
    have alike : (v.perform c salt request).Alike (fun _ => True)
        (Store.WithUsers s.users t.users) :=
      perform_alike_of_userless Store.WithUsers.likeness salt userless
    have plays : (v.perform c salt request).PlaysAlike _ turns s t :=
      alike.play (fun _ _ => trivial) like
    obtain ⟨users, apart⟩ := plays.stores.sameButUsers
    exact ⟨plays.questions, plays.left, apart, plays.stores.1, users⟩
  · intro email ambiguous ambiguous' turn turns
    obtain ⟨e, fails⟩ := verifyPasswordBody_fails (v := v) apart turn.moment ambiguous ambiguous'
    exact ⟨e, fun salt password => ⟨Operation.play_of_fails (fails password).1,
      Operation.play_of_fails (fails password).2⟩⟩

end Service

end

namespace Deployment

def branch : Organization :=
  { Organization.new (.ofNat 14) now project.id "branch" with loginMethods := .all }

/-- A user of another organization of the project with the same email and password. -/
def twin : User := { user with id := .ofNat 15, organizationId := branch.id }

def vacant : Store :=
  { store ⟨[], List.nodup_nil⟩ none with
    organizations := { rows := [organization, branch], distinct := by decide +kernel } }

def inhabited : Store :=
  { vacant with users := { rows := [user, twin], distinct := by decide +kernel } }

def emailChallenge : LoginRequest := .issueEmailChallenge user.email

end Deployment

open Deployment in
theorem Service.keepsAccountsSecret_of_twins :
    (vacant.passwordLoginCandidates context.projectId user.email).length = 0 ∧
      (inhabited.passwordLoginCandidates context.projectId user.email).length = 2 ∧
      (∃ e, ∀ salt password,
        let login := service.perform context salt (.verifyPassword (some user.email) password)
        login.play [firstTurn] vacant = ([], .finish (.error e), vacant) ∧
          login.play [firstTurn] inhabited = ([], .finish (.error e), inhabited)) ∧
      let challenge := service.perform context [] emailChallenge
      (challenge.play [firstTurn] vacant).1 = (challenge.play [firstTurn] inhabited).1 ∧
        (challenge.play [firstTurn] inhabited).1.length = 1 := by
  have none : (vacant.passwordLoginCandidates context.projectId user.email).length = 0 := by
    decide +kernel
  have two : (inhabited.passwordLoginCandidates context.projectId user.email).length = 2 := by
    rw [Store.passwordLoginCandidates, List.length_mergeSort]
    decide +kernel
  have secret := Service.keepsAccountsSecret (v := service) (c := context)
    (show vacant.SameButUsers inhabited from rfl)
  obtain ⟨questions, _⟩ := secret.1 emailChallenge [] [firstTurn] rfl
  refine ⟨none, two, ?_, questions, by decide +kernel⟩
  exact secret.2 user.email (by rw [none]; decide) (by rw [two]; decide) firstTurn []

end Vestibule
