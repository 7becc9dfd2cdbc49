/-!
# PEM files and their readers

A PEM file is a sequence of labelled blocks with any text between them. Three
readers pick blocks from it: all blocks with the certificate label in order, the
first block with a private-key label, and the first block whatever its label.

A section that the first two readers report an error on is kept apart, so that a
file without one is exactly a sequence of blocks and text. A block's contents are
a certificate or other data; decoding the contents succeeds on a certificate
only. Base64 and DER are outside this model.
-/

namespace Brewmble.PemFile

/-- The extension as far as it is read. -/
structure ExtendedKeyUsage where
  serverAuth : Bool
  deriving DecidableEq, Repr

/-- A certificate's validity in seconds and its usage extension, which may be
undecodable or absent. -/
structure Certificate where
  notBefore : Int
  notAfter : Int
  extendedKeyUsage : Except String (Option ExtendedKeyUsage)

inductive Contents where
  | certificate (cert : Certificate)
  | other (data : String)

inductive Segment where
  | text (content : String)
  | block (label : String) (contents : Contents)
  /-- A section on which a reader reports an error. -/
  | broken (err : String)

/-- `rustls_pemfile::certs`: the certificate blocks in order. -/
def certs : List Segment → Except String (List Contents)
  | [] => .ok []
  | .text _ :: rest => certs rest
  | .broken err :: _ => .error err
  | .block label contents :: rest =>
    if label = "CERTIFICATE" then
      match certs rest with
      | .ok found => .ok (contents :: found)
      | .error err => .error err
    else certs rest

def privateKeyLabels : List String := ["RSA PRIVATE KEY", "PRIVATE KEY", "EC PRIVATE KEY"]

/-- `rustls_pemfile::private_key`: the first private key. -/
def privateKey : List Segment → Except String (Option Contents)
  | [] => .ok none
  | .text _ :: rest => privateKey rest
  | .broken err :: _ => .error err
  | .block label contents :: rest =>
    if label ∈ privateKeyLabels then .ok (some contents) else privateKey rest

/-- `parse_x509_pem`: the first block, whatever its label. -/
def parseX509Pem : List Segment → Except String Contents
  | [] => .error "missing header"
  | .text _ :: rest => parseX509Pem rest
  | .broken err :: _ => .error err
  | .block _ contents :: _ => .ok contents

/-- `parse_x509` decodes a certificate only. -/
def parseX509 : Contents → Except String Certificate
  | .certificate cert => .ok cert
  | .other _ => .error "not a certificate"

end Brewmble.PemFile
