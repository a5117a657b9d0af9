import Dynastore.Foundation.Pool
import Dynastore.Tasks.Dedup
import Dynastore.Workclass.Fencing

/-! `_fan_out_webhooks` of `event_drain_task.py` with `normalize_webhook_payload`, and the machine
it is part of: drains claim event rows, create one `webhook_delivery` task after another for each,
and acknowledge the rows they are through with, while the tasks that were created are run. -/

namespace Dynastore.Workclass

open Tasks (Time TaskId Creation TasksConfig)

structure Subscription where
  subscriptionId : Nat
  subscriberName : String
  eventType : String
  scope : String := "PLATFORM"
  catalogId : Option String := none
  collectionId : Option String := none

abbrev SubscriptionTable := Table Subscription Subscription.subscriptionId

def isText (content : String) : Value → Bool
  | .text other => other == content
  | _ => false

def normalizeWebhookPayload (payload : Document) : Document :=
  if !payload.isEmpty && payload.all fun entry => ["args", "kwargs"].contains entry.1 then
    let domain :=
      match payload.get "kwargs" with
      | .dict entries => entries
      | _ => []
    match payload.get "args" with
    | .list (first :: rest) => Dict.setDefault domain "args" (.list (first :: rest))
    | _ => domain
  else payload

def subscriptionMatchesEvent (subscription : Subscription)
    (eventCatalogId eventCollectionId : Value) : Bool :=
  let scope := String.ofList
    ((if subscription.scope = "" then "PLATFORM" else subscription.scope).toList.map Char.toUpper)
  let catalogMatches := subscription.catalogId.any fun catalogId => isText catalogId eventCatalogId
  let collectionMatches := subscription.collectionId.any fun collectionId =>
    isText collectionId eventCollectionId
  if scope = "PLATFORM" then true
  else if scope = "CATALOG" then catalogMatches
  else if scope = "COLLECTION" then catalogMatches && collectionMatches
  else false

/-- The subscription is one to events of this type, and its scope selects the
event. -/
def Subscription.matches (subscription : Subscription) (event : EventRow) : Bool :=
  let domain := normalizeWebhookPayload event.payload
  subscription.eventType == event.eventType &&
    subscriptionMatchesEvent subscription (domain.get "catalog_id") (domain.get "collection_id")

theorem Subscription.matches_congr (same : left.content = right.content)
    (subscription : Subscription) : subscription.matches left = subscription.matches right := by
  rw [EventRow.content, EventRow.content, Prod.mk.injEq] at same
  rw [Subscription.matches, Subscription.matches, same.1, same.2]

namespace Fanout

structure Setting where
  config : TasksConfig
  py : Python
  subscriptions : SubscriptionTable

def deliveryKey (eventId subscriptionId : Nat) : String :=
  "webhook:" ++ toString eventId ++ ":" ++ toString subscriptionId

def deliveryIdentity (event : EventRow) (subscription : Subscription) : String × String :=
  ("system", deliveryKey event.eventId subscription.subscriptionId)

/-- The call of `create_task`, with the id and the time it generates. -/
def deliveryTask (setting : Setting) (event : EventRow) (subscription : Subscription)
    (correlationId : Option String) (taskId : TaskId) (creationTime : Time) : Creation :=
  let domain := normalizeWebhookPayload event.payload
  .createTask
    { taskType := "webhook_delivery"
      callerId := some "system:webhook_fanout"
      scope := "SYSTEM"
      inputs :=
        [("subscription_id", toString subscription.subscriptionId),
          ("subscriber_name", subscription.subscriberName),
          ("event_type", event.eventType),
          ("event_id", toString event.eventId),
          ("payload", setting.py.str (.dict domain))]
      dedupKey := some (deliveryKey event.eventId subscription.subscriptionId) }
    "system" .pending none none correlationId taskId creationTime

@[simp] theorem dedupIdentity_deliveryTask :
    (deliveryTask setting event subscription correlationId taskId creationTime).dedupIdentity =
      some (deliveryIdentity event subscription) := rfl

/-- The subscriptions `_fan_out_webhooks` creates a task for. `subscribed` is what
`_subscribed_event_types` returns: the types of up to a minute ago, or of longer ago where the
refresh fails, or nothing where there never was a set. -/
def targets (setting : Setting) (subscribed : Option (List String)) (event : EventRow) :
    List Subscription :=
  if event.eventType = "" then []
  else if subscribed.any fun types => !types.contains event.eventType then []
  else setting.subscriptions.rows.filter fun subscription => subscription.matches event

def matching (setting : Setting) (event : EventRow) : List Subscription :=
  setting.subscriptions.rows.filter fun subscription => subscription.matches event

theorem targets_eq_matching (typed : event.eventType ≠ "")
    (known : subscribed.all fun types => types.contains event.eventType) :
    targets setting subscribed event = matching setting event := by
  have shown : (subscribed.any fun types => !types.contains event.eventType) = false := by
    cases subscribed with
    | none => rfl
    | some types => simpa using known
  simp only [targets, matching, if_neg typed, shown, Bool.false_eq_true, if_false]

/-! ## The machine -/

/-- A claimed event whose fan-out is under way: the claim with its number, and
the subscriptions that are still to be served. -/
structure Delivery where
  number : Nat
  claim : EventRow
  remaining : List Subscription

def Delivery.skip (delivery : Delivery) : Delivery :=
  { delivery with remaining := delivery.remaining.tail }

/-- The event outbox, the task queue, the fan-outs under way by their slots,
and the numbers of the claims whose fan-out has returned. -/
structure World where
  ledger : EventLedger
  tasks : Tasks.World
  deliveries : Pool Delivery
  delivered : List Nat

def initial : World := ⟨Ledger.empty, ⟨Table.empty, []⟩, Pool.empty, []⟩

/-- What can happen. `deliver` is the return of `dispatch_to_listeners` without
an exception, with the two lookups of the fan-out; `check`, `insert` and
`refuse` are what `create_task` does for the next subscription. -/
inductive Op where
  | event (op : Events.Op)
  | deliver (slot : Nat) (ownerId : String) (number : Nat) (subscribed : Option (List String))
      (found : Bool)
  | check (slot : Nat) (correlationId : Option String) (taskId : TaskId) (creationTime : Time)
  | insert (slot : Nat) (dbNow : Time)
  | refuse (slot : Nat)
  | finish (slot : Nat)
  | crash (slot : Nat)
  | execute (op : Tasks.Op)

def acknowledge (delivered : List Nat) : Events.Op → Events.Op
  | .markDoneMany ownerId numbers now =>
    .markDoneMany ownerId (numbers.filter delivered.contains) now
  | op => op

def World.next (world : World) (slot : Nat) : Option (Delivery × Subscription) :=
  (world.deliveries slot).bind fun delivery => delivery.remaining.head?.map (delivery, ·)

def abandon (tasks : Tasks.World) (slot : Nat) : Tasks.World :=
  { tasks with inflight := tasks.inflight.filter fun entry => entry.1 != slot }

def isCreation : Tasks.Op → Bool
  | .beginCreate .. | .insertCreated .. => true
  | _ => false

def step (setting : Setting) (world : World) : Op → World
  | .event op =>
    { world with ledger := Events.step world.ledger (acknowledge world.delivered op) }
  | .deliver slot ownerId number subscribed found =>
    match world.deliveries slot, Events.held world.ledger ownerId number with
    | none, some claim =>
      -- a failing lookup is logged, and the event counts as delivered
      let remaining := if found then targets setting subscribed claim else []
      { world with deliveries := world.deliveries.put slot ⟨number, claim, remaining⟩ }
    | _, _ => world
  | .check slot correlationId taskId creationTime =>
    match world.next slot with
    | some (delivery, subscription) =>
      let creation :=
        deliveryTask setting delivery.claim subscription correlationId taskId creationTime
      if (world.tasks.inflight.lookup slot).isSome then world
      else if Tasks.dedupHit world.tasks.table creation then
        { world with deliveries := world.deliveries.put slot delivery.skip }
      else
        { world with
          tasks := Tasks.step setting.config world.tasks (.beginCreate slot creation) }
    | none => world
  | .insert slot dbNow =>
    match world.next slot, world.tasks.inflight.lookup slot with
    | some (delivery, _), some _ =>
      { world with
        tasks := Tasks.step setting.config world.tasks (.insertCreated slot dbNow)
        deliveries := world.deliveries.put slot delivery.skip }
    | _, _ => world
  | .refuse slot =>
    match world.next slot with
    | some (delivery, _) =>
      -- `create_task` raises: logged, and the next subscription has its turn
      { world with
        tasks := abandon world.tasks slot
        deliveries := world.deliveries.put slot delivery.skip }
    | none => world
  | .finish slot =>
    match world.deliveries slot with
    | some ⟨number, _, []⟩ =>
      { world with
        deliveries := world.deliveries.remove slot
        delivered := number :: world.delivered }
    | _ => world
  | .crash slot =>
    { world with
      tasks := abandon world.tasks slot
      deliveries := world.deliveries.remove slot }
  | .execute op =>
    if isCreation op then world
    else { world with tasks := Tasks.step setting.config world.tasks op }

/-- How many `webhook_delivery` tasks have been created for this event and this
subscription. -/
def World.tasksFor (world : World) (event : EventRow) (subscription : Subscription) : Nat :=
  Tasks.carriers world.tasks.table (deliveryIdentity event subscription)

def World.served (setting : Setting) (world : World) (event : EventRow) : Bool :=
  (matching setting event).all fun subscription => 0 < world.tasksFor event subscription

/-- A task for the subscription that was created earlier still reserves the
key, and no other creation with the key is under way. -/
def World.reserved (world : World) (event : EventRow) (subscription : Subscription) : Bool :=
  (world.tasksFor event subscription == 0 || world.tasks.table.rows.any fun row =>
      row.reserves "system" (deliveryKey event.eventId subscription.subscriptionId)) &&
    world.tasks.inflight.all fun entry =>
      entry.2.dedupIdentity != some (deliveryIdentity event subscription)

/-- A check finds earlier tasks of its key unfinished and no rival; an `INSERT`
brings a new primary key; and what is given up, or passed over because the types
shown lack the one of the event, is so for subscriptions that have their task. -/
def repeatable (setting : Setting) (world : World) : Op → Bool
  | .deliver _ ownerId number subscribed found =>
    (Events.held world.ledger ownerId number).all fun claim =>
      (found && claim.eventType != "" &&
        subscribed.all fun types => types.contains claim.eventType) || world.served setting claim
  | .check slot .. =>
    (world.next slot).all fun (delivery, subscription) =>
      (world.tasks.inflight.lookup slot).isSome || world.reserved delivery.claim subscription
  | .insert slot dbNow =>
    (world.tasks.inflight.lookup slot).all fun creation =>
      !(world.tasks.table.rows.map Tasks.TaskRow.key).contains
        (creation.row setting.config dbNow).key
  | .refuse slot =>
    (world.next slot).all fun (delivery, subscription) =>
      0 < world.tasksFor delivery.claim subscription
  | _ => true

end Fanout

end Dynastore.Workclass
