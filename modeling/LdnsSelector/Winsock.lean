import LdnsSelector.DnsName
import LdnsSelector.DnspingMain

set_option autoImplicit true

namespace LdnsSelector

open Memory

/-- `SOCKET`. -/
abbrev Socket := UInt32

def invalidSocket : Socket := 0xFFFFFFFF

inductive SocketType where
  | raw (protocol : UInt16)
  | stream
  | datagram
  deriving DecidableEq, Repr

inductive SocketOption where
  | sndTimeo (ms : Int32)
  | rcvTimeo (ms : Int32)
  | unicastHops (hops : Int32)
  | ttl (hops : Int32)
  | dontFragment
  deriving DecidableEq, Repr

/-- What is printed from the first query on. Times are in milliseconds. -/
inductive Line where
  | error (text : String)
  | receiveFrom (dataLength : Nat) (waiting : ℚ)
  | validateError (dataLength : Nat) (waiting : ℚ)
  | receiveError (dataLength : Int) (waiting : ℚ)
  | correctAnswersTimeout (dataLength : Int) (waiting : ℚ)
  | response (data : List UInt8)
  | responseHex (data : List UInt8)
  | statisticsFull
  | packetStatistics (send receive lost : UInt32) (percent : Option UInt32)
  | timeStatistics (minimum maximum average : ℚ)
  deriving DecidableEq

/-- The calls of the system that are made from the first query on. The output file is the only
file to be closed. -/
inductive WinsockCall where
  | socket (family : UInt16) (type : SocketType)
  | setsockopt (s : Socket) (option : SocketOption)
  | connect (s : Socket) (addr : SockAddr) (addrLen : Nat)
  | getsockname (s : Socket)
  | send (s : Socket) (data : List UInt8)
  | recv (s : Socket) (size : Nat)
  | closesocket (s : Socket)
  | getCurrentProcessId
  | queryPerformanceFrequency
  | queryPerformanceCounter
  | sleep (ms : UInt32)
  | print (line : Line)
  | fclose
  deriving DecidableEq

/-- `false` and `none` stand for failure. What is received fits into the buffer. -/
abbrev WinsockCall.Answer : WinsockCall → Type
  | .socket _ _ => Socket
  | .setsockopt _ _ => Bool
  | .connect _ _ _ => Bool
  | .getsockname _ => Option SockAddr
  | .send _ _ => Bool
  | .recv _ size => Option { bytes : List UInt8 // bytes.length ≤ size }
  | .closesocket _ => Unit
  | .getCurrentProcessId => UInt32
  | .queryPerformanceFrequency => Option Nat
  | .queryPerformanceCounter => Option Int
  | .sleep _ => Unit
  | .print _ => Unit
  | .fclose => Unit

abbrev Winsock : Interface := ⟨WinsockCall, WinsockCall.Answer⟩

/-- How a program over the sockets may end without returning. A loop of it is given up
unfinished after a number of rounds. -/
inductive Stop where
  | aborted (why : Abort)
  | unfinished
  deriving DecidableEq, Repr

abbrev Exchange (α : Type) := Prog Winsock Stop α

abbrev winsock (c : WinsockCall) : Exchange c.Answer := Prog.perform (I := Winsock) c

def report (text : String) : Exchange (Option α) := do
  winsock (.print (.error text))
  return none

def andThen (p : Exchange (Option α)) (f : α → Exchange (Option β)) : Exchange (Option β) :=
  p.bind fun
    | none => .ret none
    | some a => f a

def check (p : Exchange Bool) (text : String) : Exchange (Option Unit) := do
  if ← p then return some () else report text

/-- `memcpy_s`, which ends the process when the bytes do not fit. -/
def memcpyS (m : Memory) (a : Nat) (size : UInt32) (bytes : List UInt8) : Exchange Memory :=
  if bytes.length ≤ size.toNat then return m.write a bytes
  else .crash (.aborted .invalidParameter)

/-- A buffer that `memset` has cleared. -/
def zeros : Memory := fun _ => 0

/-- `recv`: the buffer, and the length or `SOCKET_ERROR`. -/
def receive (s : Socket) (size : Nat) (buffer : Memory) : Exchange (Memory × Int) := do
  match ← winsock (.recv s size) with
  | none => return (buffer, -1)
  | some bytes => return (buffer.write 0 bytes.1, bytes.1.length)

/-- The bytes of a 16-bit member of a packet, whose value is in network order. -/
def le16 (n : UInt16) : List UInt8 := [n.toUInt8, (n >>> 8).toUInt8]

def readLe16 (m : Memory) (a : Nat) : UInt16 := (m a).toUInt16 ||| ((m (a + 1)).toUInt16 <<< 8)

@[simp] theorem length_le16 (n : UInt16) : (le16 n).length = 2 := rfl

end LdnsSelector
