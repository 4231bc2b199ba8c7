/-!
# Kinds of datasets

There are two kinds of datasets, each with a word that names it in settings and in file names.
-/

namespace RoutingData

/-- A kind of dataset. -/
inductive DatasetKind where
  /-- Lists of addresses. -/
  | addresses
  /-- Lists of domains. -/
  | sites
  deriving DecidableEq, Repr

namespace DatasetKind

/-- The word for a kind. -/
def word : DatasetKind → String
  | addresses => "geoip"
  | sites => "geosite"

/-- The word for a kind as it is written in messages. -/
def title : DatasetKind → String
  | addresses => "GeoIP"
  | sites => "GeoSite"

/-- The kind that a word names. -/
def ofWord? (text : String) : Option DatasetKind := [addresses, sites].find? (·.word == text)

/-- The usual name of a file with such a dataset. -/
def fileName (k : DatasetKind) : String := k.word ++ ".dat"

end DatasetKind

end RoutingData
