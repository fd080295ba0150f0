import ImageCatalog.Url

/-!
# Addresses of artifacts

An artifact is an object of a bucket that is addressed by the name of its host:
`https://<bucket>.s3.<region>.amazonaws.com/<key>`.

## Main definitions

* `Artifact.addressFault?` — what is wrong with a text as the address of an artifact.
-/

namespace ImageCatalog.Artifact

/-- What is wrong with a text as the address of an artifact. -/
inductive AddressFault where
  | empty
  /-- The text is no web address. -/
  | notAddress (fault : Url.Fault)
  | notSecure
  | missingHost
  /-- The host is none of the storage service. -/
  | foreignHost
  /-- The host names no bucket or no region. -/
  | badHost
  | missingKey
deriving DecidableEq, Repr

def AddressFault.message : AddressFault → String
  | empty => "empty"
  | notAddress fault => fault.message
  | notSecure => "scheme must be https"
  | missingHost => "missing host"
  | foreignHost => "host is not an S3 endpoint"
  | badHost => "host must be <bucket>.s3.<region>.amazonaws.com"
  | missingKey => "missing object key"

/-- The end of the hosts of the storage service. -/
def hostSuffix : List Char := ".amazonaws.com".toList

/-- What stands in front of the end of a host of the storage service. -/
def endpoint? (host : List Char) : Option (List Char) :=
  if hostSuffix.isSuffixOf host then some (host.take (host.length - hostSuffix.length)) else none

/-- A text in front of its last point and behind it. -/
def splitLastPoint? (s : List Char) : Option (List Char × List Char) :=
  match s.reverse.dropWhile (· != '.') with
  | [] => none
  | _ :: front => some (front.reverse, s.drop (front.length + 1))

/-- Bucket and region of an endpoint: `<bucket>.s3.<region>`. -/
def bucketAndRegion? (endpoint : List Char) : Option (List Char × List Char) := do
  let (front, region) ← splitLastPoint? endpoint
  let (bucket, service) ← splitLastPoint? front
  if service = ['s', '3'] && !region.isEmpty && !bucket.isEmpty then some (bucket, region) else none

/-- Whether the path of an address names an object. -/
def namesObject (u : Url) : Bool :=
  u.segments.any fun segment => !segment.isEmpty

/-- What is wrong with the host of an address. -/
def hostFault? : Option Host → Option AddressFault
  | none => some .missingHost
  | some (.name host) =>
    match endpoint? host with
    | none => some .foreignHost
    | some endpoint => if (bucketAndRegion? endpoint).isNone then some .badHost else none
  | some _ => some .foreignHost

/-- What is wrong with a web address as the address of an artifact. -/
def urlFault? (u : Url) : Option AddressFault :=
  if u.scheme ≠ "https".toList then some .notSecure
  else
    match hostFault? u.host with
    | some fault => some fault
    | none => if namesObject u then none else some .missingKey

/-- What is wrong with a text as the address of an artifact. -/
def addressFault? (s : String) : Option AddressFault :=
  if s.isEmpty then some .empty
  else
    match Url.parse s with
    | .error fault => some (.notAddress fault)
    | .ok u => urlFault? u

end ImageCatalog.Artifact
