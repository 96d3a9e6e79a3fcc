import Vestibule.Audit.Actor
import Vestibule.Audit.EventId

/-! Entries of the audit log. -/

namespace Vestibule.Audit

structure Event where
  id : Uuid
  projectId : Uuid
  organizationId : Option Uuid
  actor : Actor
  resourceType : Option ResourceType
  resourceId : Option Uuid
  name : String
  time : Instant
  details : Json

namespace Event

/-- An event at the time that its identifier carries, attributed to no organization and no
resource. -/
def new (id : Uuid) (now : Instant) (projectId : Uuid) (actor : Actor) (name : String)
    (details : Json) : Event where
  id := id
  projectId := projectId
  organizationId := none
  actor := actor
  resourceType := none
  resourceId := none
  name := name
  time := eventTime id now
  details := details

def withOrganization (e : Event) (id : Uuid) : Event := { e with organizationId := some id }

def withResource (e : Event) (type : ResourceType) (id : Uuid) : Event :=
  { e with resourceType := some type, resourceId := some id }

def fields : List String :=
  ["id", "project_id", "organization_id", "actor", "resource_type", "resource_id", "event_name",
    "event_time", "event_details"]

def members (e : Event) : List (String × Json) :=
  [("id", .ofUuid e.id),
    ("project_id", .ofUuid e.projectId),
    ("organization_id", .ofOption .ofUuid e.organizationId),
    ("actor", e.actor.toJson),
    ("resource_type", .ofOption ResourceType.toJson e.resourceType),
    ("resource_id", .ofOption .ofUuid e.resourceId),
    ("event_name", .string e.name),
    ("event_time", .ofInstant e.time),
    ("event_details", e.details)]

def toJson (e : Event) : Json := .object e.members

def ofJson? (j : Json) : Option Event := do
  let r ← Row.ofJson? fields j
  return {
    id := ← r.required "id" Json.uuid?
    projectId := ← r.required "project_id" Json.uuid?
    organizationId := ← r.optional "organization_id" Json.uuid?
    actor := ← r.required "actor" Actor.ofJson?
    resourceType := ← r.optional "resource_type" ResourceType.ofJson?
    resourceId := ← r.optional "resource_id" Json.uuid?
    name := ← r.required "event_name" Json.string?
    time := ← r.required "event_time" Json.instant?
    details := ← r.required "event_details" fun j => j.readable?.map Json.lastWins }

end Event

end Vestibule.Audit
