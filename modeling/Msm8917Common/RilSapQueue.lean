import Msm8917Common.FirstMatch

/-! The requests of `RilSapSocket.cpp` that wait for the UIM functions, in the
hand-written queue of `rilSocketQueue.h`. A request is enqueued at the front and
taken out by the id and the token of its message, which the client chooses. -/
namespace Msm8917Common.Ril.Sap
open FirstMatch

inductive MsgType where
  | request | response | unsolResponse
  deriving DecidableEq

structure MsgHeader where
  token : Int
  type : MsgType
  id : Nat
  error : Int
  payload : List UInt8
  deriving DecidableEq

/-- A `SapSocketRequest` at its address. `p_next` is the rest of the queue. -/
structure SapSocketRequest where
  address : Nat
  token : Int
  curr : MsgHeader
  deriving DecidableEq

/-- What the socket does to the outside: a request for the UIM functions, a response
for the client, a block given back. -/
inductive SapEffect where
  | onRequest (id : Nat) (payload : List UInt8) (request : Nat)
  | processResponse (rsp : MsgHeader)
  | freeRequest (request : Nat)
  | freeHeader (header : MsgHeader)
  deriving DecidableEq

/-- `issued` is every request there has been, by address: freed memory is read as
it was left. `outstanding` records the requests whose completion has not come, the
newest first. -/
structure SapSocket where
  pendingResponseQueue : List SapSocketRequest
  issued : List SapSocketRequest
  outstanding : List SapSocketRequest
  effects : List SapEffect
  nextAddress : Nat
  deriving DecidableEq

namespace SapSocket

def start : SapSocket := ⟨[], [], [], [], 1⟩

/-- `Ril_queue::enqueue`: an empty queue and a front to stand before end up alike. -/
def enqueue (request : SapSocketRequest) (queue : List SapSocketRequest) :
    List SapSocketRequest :=
  match queue with
  | [] => [request]
  | front => request :: front

/-- The comparison of `Ril_queue::checkAndDequeue`. -/
def sameMessage (id : Nat) (token : Int) (cur : SapSocketRequest) : Bool :=
  token = cur.token && id = cur.curr.id

/-- The entry that was freed, if any, and the queue without it. -/
def checkAndDequeue (id : Nat) (token : Int) (queue : List SapSocketRequest) :
    Option SapSocketRequest × List SapSocketRequest :=
  onFirst (sameMessage id token) (fun _ => none) queue

def dispatchRequest (uimFuncs allocated : Bool) (req : MsgHeader) (socket : SapSocket) :
    SapSocket :=
  if allocated then
    let currRequest : SapSocketRequest := ⟨socket.nextAddress, req.token, req⟩
    { pendingResponseQueue := enqueue currRequest socket.pendingResponseQueue
      issued := currRequest :: socket.issued
      outstanding := currRequest :: socket.outstanding
      effects := socket.effects ++
        if uimFuncs then [.onRequest req.id req.payload currRequest.address] else []
      nextAddress := socket.nextAddress + 1 }
  else { socket with effects := socket.effects ++ [.freeHeader req] }

/-- The response for the client. An empty or null response has no payload. -/
def respond (hdr : MsgHeader) (e : Int) (response : List UInt8) : MsgHeader :=
  ⟨hdr.token, .response, hdr.id, e, response⟩

/-- `onRequestComplete` for the request at an address. -/
def onRequestComplete (t : Nat) (e : Int) (response : List UInt8) (allocated : Bool)
    (socket : SapSocket) : SapSocket :=
  match socket.issued.find? (·.address = t) with
  | none => socket
  | some request =>
    let hdr := request.curr
    let answer := if allocated then [SapEffect.processResponse (respond hdr e response)] else []
    let dequeued := checkAndDequeue hdr.id hdr.token socket.pendingResponseQueue
    { socket with
      pendingResponseQueue := dequeued.2
      outstanding := socket.outstanding.filter (·.address ≠ t)
      effects := socket.effects ++ answer ++
        (dequeued.1.toList.map fun temp => .freeRequest temp.address) ++ [.freeHeader hdr] }

end SapSocket

/-- A completion without a request is refused at once. -/
inductive SapEvent where
  | dispatch (req : MsgHeader) (allocated : Bool)
  | complete (t : Option Nat) (e : Int) (response : List UInt8) (allocated : Bool)
  deriving DecidableEq

def SapSocket.step (uimFuncs : Bool) (socket : SapSocket) : SapEvent → SapSocket
  | .dispatch req allocated => socket.dispatchRequest uimFuncs allocated req
  | .complete none _ _ _ => socket
  | .complete (some t) e response allocated => socket.onRequestComplete t e response allocated

end Msm8917Common.Ril.Sap
