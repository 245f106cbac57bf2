import FunaiSdk.Keys
import FunaiSdk.Message
import Mathlib.Data.List.Basic

/-!
# BNS names

`decodeFQN` splits a fully qualified name on its dots. A name of more than two labels is read
as `subdomain.name.namespace`, and any label after the third is dropped; otherwise the labels
are the name and the namespace, and a name with no dot has no namespace at all, although the
declared return type says it is a string.
-/

namespace FunaiSdk.Bns

/-- The object `decodeFQN` returns, with each field as the JavaScript index expression that
fills it: `nameParts[1]` of a name with no dot is `undefined`. -/
structure DecodedFQN where
  name : Option String
  «namespace» : Option String
  subdomain : Option String
  deriving DecidableEq, Repr

/-- `fqdn.split('.')`, on the name's characters. -/
def splitOnDot (fqdn : String) : List String :=
  (fqdn.data.splitOn '.').map String.mk

def decodeFQN (fqdn : String) : DecodedFQN :=
  let nameParts := splitOnDot fqdn
  if nameParts.length > 2 then
    { subdomain := nameParts[0]?, name := nameParts[1]?, «namespace» := nameParts[2]? }
  else { name := nameParts[0]?, «namespace» := nameParts[1]?, subdomain := none }

def getZonefileHash (crypto : Crypto) (zonefile : String) : Bytes :=
  crypto.hash160 (Message.utf8ToBytes zonefile)

section Split

variable {label : String}

theorem splitOnDot_of_no_dot (hlabel : '.' ∉ label.data) : splitOnDot label = [label] := by
  have hsingle : label.data.splitOn '.' = [label.data] :=
    List.splitOnP_eq_single _ _ fun x hx => by
      simpa using ne_of_mem_of_not_mem hx hlabel
  simp [splitOnDot, hsingle]

/-- A label with no dot, then a dot: the split gives the label, then the split of the rest. -/
theorem splitOnDot_label_append (hlabel : '.' ∉ label.data) (rest : String) :
    splitOnDot (label ++ "." ++ rest) = label :: splitOnDot rest := by
  have hfirst : (label.data ++ '.' :: rest.data).splitOn '.' =
      label.data :: rest.data.splitOn '.' :=
    List.splitOnP_first _ _ (fun x hx => by simpa using ne_of_mem_of_not_mem hx hlabel) '.'
      (by simp) rest.data
  have hdata : (label ++ "." ++ rest).data = label.data ++ '.' :: rest.data := by
    simp only [String.data_append, List.append_assoc]
    rfl
  simp [splitOnDot, hdata, hfirst]

end Split

/-- `decodeFQN` reads back the labels of `name.namespace` and of `subdomain.name.namespace`
when no label has a dot, and reads a longer name as its first three labels. A name of one
label is read with no namespace. -/
theorem decodeFQN_round_trip {subdomain name «namespace» : String}
    (hsubdomain : '.' ∉ subdomain.data) (hname : '.' ∉ name.data)
    (hnamespace : '.' ∉ «namespace».data) :
    decodeFQN name = ⟨some name, none, none⟩ ∧
    decodeFQN (name ++ "." ++ «namespace») = ⟨some name, some «namespace», none⟩ ∧
    decodeFQN (subdomain ++ "." ++ name ++ "." ++ «namespace») =
      ⟨some name, some «namespace», some subdomain⟩ ∧
    ∀ rest, decodeFQN (subdomain ++ "." ++ name ++ "." ++ «namespace» ++ "." ++ rest) =
      ⟨some name, some «namespace», some subdomain⟩ := by
  have hassoc : ∀ a b c : String, a ++ "." ++ b ++ "." ++ c = a ++ "." ++ (b ++ "." ++ c) :=
    fun a b c => String.ext (by simp)
  refine ⟨?_, ?_, ?_, fun rest => ?_⟩
  · simp [decodeFQN, splitOnDot_of_no_dot hname]
  · simp [decodeFQN, splitOnDot_label_append hname, splitOnDot_of_no_dot hnamespace]
  · simp [decodeFQN, hassoc, splitOnDot_label_append hsubdomain,
      splitOnDot_label_append hname, splitOnDot_of_no_dot hnamespace]
  · simp [decodeFQN, hassoc, splitOnDot_label_append hsubdomain,
      splitOnDot_label_append hname, splitOnDot_label_append hnamespace]

theorem decodeFQN_round_trip_alice :
    '.' ∉ "mail".data ∧ '.' ∉ "alice".data ∧ '.' ∉ "id".data ∧
      decodeFQN "alice" = ⟨some "alice", none, none⟩ ∧
      decodeFQN ("alice" ++ "." ++ "id") = ⟨some "alice", some "id", none⟩ ∧
      decodeFQN ("mail" ++ "." ++ "alice" ++ "." ++ "id") =
        ⟨some "alice", some "id", some "mail"⟩ ∧
      ∀ rest, decodeFQN ("mail" ++ "." ++ "alice" ++ "." ++ "id" ++ "." ++ rest) =
        ⟨some "alice", some "id", some "mail"⟩ :=
  ⟨by decide, by decide, by decide,
    decodeFQN_round_trip (by decide) (by decide) (by decide)⟩

end FunaiSdk.Bns
