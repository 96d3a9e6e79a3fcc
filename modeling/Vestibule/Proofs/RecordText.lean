import Vestibule.Proofs.FieldText
import Vestibule.Store.Record

/-! Records as texts. What is written of a record names none of its secrets and does not depend on
them, and is read again as the record without them; of a session, whose digest may not be left out,
it is not read at all. -/

namespace Vestibule

theorem Project.ofJson?_toJson {p : Project} : ofJson? p.toJson = some p := by
  rw [ofJson?, toJson, Row.ofJson?_object_bind (by simp [members])]
  simp [↓bind_eq_some_iff, members, Row.flag]

theorem Organization.ofJson?_toJson {o : Organization} : ofJson? o.toJson = some o := by
  rw [ofJson?, toJson, Row.ofJson?_object_bind (by simp [members])]
  simp [↓bind_eq_some_iff, members, Row.flag, Json.strings?_array]

theorem SamlConnection.ofJson?_toJson {c : SamlConnection} : ofJson? c.toJson = some c := by
  rw [ofJson?, toJson, Row.ofJson?_object_bind (by simp [members])]
  simp [↓bind_eq_some_iff, members, Row.flag]

theorem OidcConnection.ofJson?_toJson {c : OidcConnection} : ofJson? c.toJson = some c := by
  rw [ofJson?, toJson, Row.ofJson?_object_bind (by simp [members])]
  simp [↓bind_eq_some_iff, members, Row.flag]

theorem VerifiedEmail.ofJson?_toJson {v : VerifiedEmail} : ofJson? v.toJson = some v := by
  rw [ofJson?, toJson, Row.ofJson?_object_bind (by simp [members])]
  simp [↓bind_eq_some_iff, members]

/-- A hash that is left out is absent. -/
theorem User.ofJson?_toJson {u : User} :
    ofJson? u.toJson = some { u with passwordHash := none } := by
  rw [ofJson?, toJson, Row.ofJson?_object_bind (by simp [members])]
  simp [↓bind_eq_some_iff, members, Row.flag]

theorem User.ofJson?_stored {u : User} :
    ofJson? (.object (u.members ++ u.hiddenMembers)) = some u := by
  rw [ofJson?, Row.ofJson?_object_bind (by simp [members, hiddenMembers])]
  simp [↓bind_eq_some_iff, members, hiddenMembers, Row.flag]

theorem IntermediateSession.ofJson?_toJson {s : IntermediateSession} :
    ofJson? s.toJson = some { s with stagedPasswordHash := none } := by
  rw [ofJson?, toJson, Row.ofJson?_object_bind (by simp [members])]
  simp [↓bind_eq_some_iff, members, Row.flag]

theorem IntermediateSession.ofJson?_stored {s : IntermediateSession} :
    ofJson? (.object (s.members ++ s.hiddenMembers)) = some s := by
  rw [ofJson?, Row.ofJson?_object_bind (by simp [members, hiddenMembers])]
  simp [↓bind_eq_some_iff, members, hiddenMembers, Row.flag]

/-- A digest may not be left out. -/
theorem Session.ofJson?_toJson {s : Session} : ofJson? s.toJson = none := by
  rw [ofJson?, toJson, Row.ofJson?_object_bind (by simp [members])]
  simp [members]

theorem Session.ofJson?_stored {s : Session} :
    ofJson? (.object (s.members ++ s.hiddenMembers)) = some s := by
  rw [ofJson?, Row.ofJson?_object_bind (by simp [members, hiddenMembers])]
  simp [↓bind_eq_some_iff, members, hiddenMembers, Row.flag, PrimaryAuthFactor.ofJson?_toJson]

namespace Json

variable {members : List (String × Json)}

theorem havePlainValues_of_shown {depth : Nat} (shown : ∀ member ∈ members, member.2.Shown) :
    havePlainValues (depth + 4) members = true := by
  induction members with
  | nil => rfl
  | cons member members ih =>
      rw [havePlainValues, (shown _ List.mem_cons_self).plain,
        ih fun other within => shown other (List.mem_cons_of_mem _ within), Bool.and_self]

theorem memberNames_discreet (shown : ∀ member ∈ members, member.2.Shown)
    (named : (members.map (·.1)).Disjoint Record.secretNames) :
    (memberNames members).Disjoint Record.secretNames := by
  induction members with
  | nil => exact List.disjoint_nil_left _
  | cons member members ih =>
      obtain ⟨first, others⟩ := List.disjoint_cons_left.mp named
      rw [memberNames, List.cons_append, List.disjoint_cons_left, List.disjoint_append_left]
      exact ⟨first, (shown _ List.mem_cons_self).discreet,
        ih (fun other within => shown other (List.mem_cons_of_mem _ within)) others⟩

end Json

namespace Record

def kind : Record → RecordKind
  | project _ => .project
  | organization _ => .organization
  | user _ => .user
  | samlConnection _ => .samlConnection
  | oidcConnection _ => .oidcConnection
  | intermediateSession _ => .intermediateSession
  | session _ => .session
  | verifiedEmail _ => .verifiedEmail

/-- The record with the fields empty that hold secrets. -/
def withoutSecrets : Record → Record
  | user r => user { r with passwordHash := none }
  | intermediateSession r => intermediateSession { r with stagedPasswordHash := none }
  | session r => session { r with refreshTokenSha256 := [] }
  | r => r

theorem shown_members (r : Record) : ∀ member ∈ r.members, member.2.Shown := by
  cases r <;>
    simp [members, Project.members, Organization.members, User.members, SamlConnection.members,
      OidcConnection.members, IntermediateSession.members, Session.members, VerifiedEmail.members]

theorem disjoint_names (r : Record) : (r.members.map (·.1)).Disjoint secretNames := by
  cases r <;>
    simp [members, Project.members, Organization.members, User.members, SamlConnection.members,
      OidcConnection.members, IntermediateSession.members, Session.members, VerifiedEmail.members,
      secretNames]

/-- The text of a record gives its form back. -/
theorem scanText?_render {r : Record} : Json.scanText? r.toJson.render = some r.toJson := by
  refine Json.scan?_render ?_
  have plain : Json.havePlainValues (Json.depthLimit - 1) r.members = true :=
    Json.havePlainValues_of_shown r.shown_members
  rw [toJson, Json.isPlain, plain]
  rfl

theorem discreet_toJson {r : Record} : r.toJson.names.Disjoint secretNames := by
  rw [toJson, Json.names]
  exact Json.memberNames_discreet r.shown_members r.disjoint_names

theorem toJson_withoutSecrets {r : Record} : r.withoutSecrets.toJson = r.toJson := by
  cases r <;> rfl

/-- All records but sessions are read again from their form. -/
theorem ofJson?_toJson {r : Record} :
    ofJson? r.toJson r.kind = if r.kind = .session then none else some r.withoutSecrets := by
  cases r with
  | project r =>
      change (Project.ofJson? r.toJson).map project = _
      rw [Project.ofJson?_toJson]
      rfl
  | organization r =>
      change (Organization.ofJson? r.toJson).map organization = _
      rw [Organization.ofJson?_toJson]
      rfl
  | user r =>
      change (User.ofJson? r.toJson).map user = _
      rw [User.ofJson?_toJson]
      rfl
  | samlConnection r =>
      change (SamlConnection.ofJson? r.toJson).map samlConnection = _
      rw [SamlConnection.ofJson?_toJson]
      rfl
  | oidcConnection r =>
      change (OidcConnection.ofJson? r.toJson).map oidcConnection = _
      rw [OidcConnection.ofJson?_toJson]
      rfl
  | intermediateSession r =>
      change (IntermediateSession.ofJson? r.toJson).map intermediateSession = _
      rw [IntermediateSession.ofJson?_toJson]
      rfl
  | session r =>
      change (Session.ofJson? r.toJson).map session = _
      rw [Session.ofJson?_toJson]
      rfl
  | verifiedEmail r =>
      change (VerifiedEmail.ofJson? r.toJson).map verifiedEmail = _
      rw [VerifiedEmail.ofJson?_toJson]
      rfl

/-- With the fields beside them that are not shown, all records are read again. -/
theorem ofJson?_storedJson {r : Record} : ofJson? r.storedJson r.kind = some r := by
  cases r with
  | user r =>
      change (User.ofJson? (.object (r.members ++ r.hiddenMembers))).map user = _
      rw [User.ofJson?_stored]
      rfl
  | intermediateSession r =>
      change (IntermediateSession.ofJson? (.object (r.members ++ r.hiddenMembers))).map
        intermediateSession = _
      rw [IntermediateSession.ofJson?_stored]
      rfl
  | session r =>
      change (Session.ofJson? (.object (r.members ++ r.hiddenMembers))).map session = _
      rw [Session.ofJson?_stored]
      rfl
  | project | organization | samlConnection | oidcConnection | verifiedEmail =>
      rw [storedJson, hiddenMembers, List.append_nil]
      · exact ofJson?_toJson
      all_goals simp

/-- The form of a record names none of its secrets, at any depth, and does not depend on them. Read
again, also from its text, it is the record without its secrets; but for a session, whose form is
refused, since a digest may not be left out. Nothing else is missing: with the fields beside it that
are not shown, the form of every record is read again as the record. -/
theorem shown_form (r : Record) :
    r.toJson.names.Disjoint secretNames ∧ r.withoutSecrets.toJson = r.toJson ∧
      ofJson? r.toJson r.kind = (if r.kind = .session then none else some r.withoutSecrets) ∧
      (Json.scanText? r.toJson.render).bind (ofJson? · r.kind) = ofJson? r.toJson r.kind ∧
      ofJson? r.storedJson r.kind = some r := by
  refine ⟨discreet_toJson, toJson_withoutSecrets, ofJson?_toJson, ?_, ofJson?_storedJson⟩
  rw [scanText?_render, Option.bind_some]

/-- What is shown of a session that was just made is not read as a session. -/
theorem session_form_refused :
    let made := Session.new .nil .epoch .nil (List.replicate 32 0) .password .latest
    (Json.scanText? (session made).toJson.render).bind (ofJson? · .session) ≠
      some (session made).withoutSecrets := by
  intro made read
  have refused := @ofJson?_toJson (session made)
  rw [kind, if_pos rfl] at refused
  rw [scanText?_render, Option.bind_some, refused] at read
  cases read

end Record

end Vestibule
