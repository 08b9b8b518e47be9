/-
# Message numbers

The numbers of `ssh.h` that the modelled code tests or sends.
-/

namespace Dropbear

/-! Transport and key exchange. -/

def msgDisconnect : Nat := 1
def msgIgnore : Nat := 2
def msgUnimplemented : Nat := 3
def msgDebug : Nat := 4
def msgServiceRequest : Nat := 5
def msgServiceAccept : Nat := 6
def msgKexinit : Nat := 20
def msgKexdhInit : Nat := 30
def msgKexdhReply : Nat := 31

/-! User authentication. -/

def msgUserauthRequest : Nat := 50
def msgUserauthFailure : Nat := 51
def msgUserauthSuccess : Nat := 52
def msgUserauthBanner : Nat := 53
def msgUserauthSpecific60 : Nat := 60

/-- `MAX_UNAUTH_PACKET_TYPE`: the largest type accepted before authentication. -/
def maxUnauthPacketType : Nat := msgUserauthSpecific60

/-! Connection. -/

def msgGlobalRequest : Nat := 80
def msgRequestFailure : Nat := 82
def msgChannelRequest : Nat := 98
def msgChannelFailure : Nat := 100

/-- Whether a packet may be sent during a key exchange. -/
def packetIsOkayKex (type : Nat) : Bool :=
  if type ≥ msgUserauthRequest then false
  else if type = msgServiceRequest ∨ type = msgServiceAccept then false
  else if type = msgKexinit then false
  else true

end Dropbear
