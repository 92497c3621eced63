/-!
# Failures

Every call of the library either answers or ends in a `Failure`: a kind and the message that
explains it. The kinds are the library's own classification of what went wrong; how a kind is
named to a client is the client's choice.

## Main definitions

* `Failure.Kind`: bad value, bad type, overflow, missing attribute, key or position, malformed geometry,
  empty way, a request rejected with an HTTP status, invalid fields, a changeset that was not
  created, a store constraint, a store statement that cannot run, values nested too deep, text
  without a UTF-8 form.
* `Failure`: a kind with its message.
-/

namespace RoadAtlas

/-- The kinds of failure. -/
inductive Failure.Kind where
  /-- A value of the right type that cannot be used. -/
  | badValue
  /-- A value of the wrong type. -/
  | badType
  /-- A number too large for its target. -/
  | overflow
  /-- An operation that a value of its type does not have. -/
  | noAttribute
  /-- A missing member of an object. -/
  | noKey
  /-- A position past the end of a sequence. -/
  | noIndex
  /-- A survey geometry that is not a valid shape. -/
  | malformedGeometry
  /-- A way without nodes where nodes are needed. -/
  | emptyWay
  /-- A request refused with an HTTP status. -/
  | rejected (status : Nat)
  /-- Input fields that do not validate. -/
  | invalidFields
  /-- A changeset that the store did not create. -/
  | changesetNotCreated
  /-- A store constraint refused a change. -/
  | integrity
  /-- A store statement that names a table or column the store does not have. -/
  | badStatement
  /-- Values nested deeper than a reader goes. -/
  | tooDeep
  /-- Text with an unpaired surrogate, which has no UTF-8 form. -/
  | unencodable
deriving DecidableEq, Repr

/-- A failure: its kind and its message. -/
structure Failure where
  kind : Failure.Kind
  message : String
deriving DecidableEq, Repr

end RoadAtlas
