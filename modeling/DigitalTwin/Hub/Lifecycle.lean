import DigitalTwin.Hub.Ingestion
import DigitalTwin.Entity.Form
import DigitalTwin.Word

/-!
The life of twins: they are added, updated, viewed, listed and removed by their owners. A change is
stored only if its routes are free, and the routes follow the store at once.
-/

namespace DigitalTwin

namespace Hub

/-- Stores a twin with `store`, if its keys are free, and routes it. -/
def storeAndRoute (point : CallPoint) (store : TwinStore → Twin → Except ServiceError TwinStore)
    (twin : Twin) : Action Unit := do
  ofExcept ((← get).routes.requireFree twin)
  pass point
  let twins ← ofExcept (store (← get).twins twin)
  modify fun hub => { hub with twins, routes := (hub.routes.insert twin).2 }

/-- Refuses a definition that may not be routed. -/
def checkDefinition (d : Definition) : Action Unit := do
  ofExcept (d.requireRoutable (← get).notifyChannel)

/-- Adds a twin of the caller with the definition as its first one. Of the given twin only name and
metadata count. -/
def register (token : String) (given : Twin) (d : Definition) (now : Instant) : Action Twin := do
  let owner ← identify token
  checkDefinition d
  let twin : Twin := { given with
    id := ← issueId
    owner
    created := now
    updated := now
    revision := 0
    definitions := [{ d with id := 0, created := now }] }
  storeAndRoute .saveTwin TwinStore.insert twin
  modify alignSubscriptions
  return twin

/-- Puts the definition in force for a twin of the caller, as the next revision, and replaces name and
metadata. -/
def revise (token : String) (given : Twin) (d : Definition) (now : Instant) : Action Unit := do
  let owner ← identify token
  let current ← retrieve given.id
  if current.owner ≠ owner then
    throw .unauthorized
  else
    checkDefinition d
    let revision := nextWord current.revision
    let twin : Twin := { current with
      name := given.name
      metadata := given.metadata
      updated := now
      revision
      definitions := current.definitions ++ [{ d with id := revision, created := now }] }
    storeAndRoute .updateTwin TwinStore.replace twin
    modify alignSubscriptions

/-- Takes a twin out of the store and its routes with it. -/
def discard (id : String) : Action Unit := do
  pass .removeTwin
  modify fun hub => { hub with twins := hub.twins.erase id, routes := (hub.routes.erase id).2 }
  modify alignSubscriptions

/-- Removes a twin of the caller. Nothing is done for a twin that is missing or not the caller's. -/
def unregister (token id : String) : Action Unit := do
  let owner ← identify token
  match ← retrieve? id with
  | none => return ()
  | some twin => if twin.owner ≠ owner then return () else discard id

/-- The twin with an id, as long as it is the caller's. -/
def viewTwin (token id : String) : Action Twin := do
  let owner ← identify token
  let twin ← retrieve id
  if twin.owner ≠ owner then throw .notFound else return twin

/-- A page of the caller's twins. -/
def listTwins (token : String) (offset limit : Nat) (name : Option String) (metadata : Option JsonFields) :
    Action (Page Twin) := do
  let owner ← identify token
  pass .listTwins
  return (← get).twins.page ⟨owner, name, metadata⟩ offset limit

/-- A page of the states of a twin of the caller; of any other twin there are none. -/
def listStates (token twinId : String) (offset limit : Nat) : Action (Page State) := do
  let owner ← identify token
  match ← retrieve? twinId with
  | some twin =>
    if twin.owner = owner then
      pass .listStates
      return (← get).states.page twinId offset limit
    else
      return .empty offset limit
  | none => return .empty offset limit

/-- Routes the stored twins anew, and counts the routes. -/
def restore : Action Nat := do
  pass .everyTwin
  modify fun hub => { hub with routes := .ofTwins hub.notifyChannel hub.twins.toList }
  let routes := (← get).routes.size
  modify alignSubscriptions
  return routes

/-- What is announced of an operation on the twin with an id. -/
def idReport (id : String) : Json := .ofFields [("id", .text id)]

def addTwin (token : String) (given : Twin) (d : Definition) (now : Instant) : Action Twin :=
  announced (deliver (.at now) deliveryDepth) "addTwin" now Twin.toJson (register token given d now)

def updateTwin (token : String) (given : Twin) (d : Definition) (now : Instant) : Action Unit :=
  announced (deliver (.at now) deliveryDepth) "updateTwin" now (fun () => idReport given.id)
    (revise token given d now)

def removeTwin (token id : String) (now : Instant) : Action Unit :=
  announced (deliver (.at now) deliveryDepth) "removeTwin" now (fun () => idReport id) (unregister token id)

end Hub

end DigitalTwin
