import ShapeSearch.Search.Searcher

/-!
# Settings

The settings a configuration file may give: the pattern, the language, extra
excludes, extensions, link following, depth, threads, queue size, a parse time
limit in milliseconds, the match mode and the report format.  Each is optional;
the two lists are empty when not given.  Settings turn into search options: what
is not set takes the search's default.
-/

namespace ShapeSearch

/-- How results are reported. -/
inductive OutputFormat where
  | text
  | json
  deriving Repr, DecidableEq, Inhabited

/-- The name of a format. -/
def OutputFormat.name : OutputFormat → String
  | .text => "text"
  | .json => "json"

/-- The settings of a configuration file. -/
structure Config where
  pattern : Option String
  language : Option String
  exclude : List String
  extensions : List String
  followLinks : Option Bool
  maxDepth : Option Nat
  threads : Option Nat
  queueCapacity : Option Nat
  parseTimeoutMs : Option UInt64
  nonOverlapping : Option Bool
  format : Option OutputFormat
  deriving Repr, DecidableEq, Inhabited

namespace Config

/-- Nothing set. -/
def empty : Config :=
  { pattern := none, language := none, exclude := [], extensions := [], followLinks := none,
    maxDepth := none, threads := none, queueCapacity := none, parseTimeoutMs := none,
    nonOverlapping := none, format := none }

/-- The names of the settings, in their order. -/
def fieldNames : List String :=
  ["pattern", "language", "exclude", "extensions", "follow_links", "max_depth", "threads",
   "queue_capacity", "parse_timeout_ms", "non_overlapping", "format"]

/-- The search options the settings give. -/
def searchOptions (c : Config) : Search.Options :=
  { language := c.language
    walk := { extensions := c.extensions, excludes := c.exclude,
              followLinks := c.followLinks.getD false, maxDepth := c.maxDepth }
    threads := c.threads
    queueCapacity := c.queueCapacity.getD Search.Options.default.queueCapacity
    parseTimeout := c.parseTimeoutMs.map Duration.ofMillis
    mode := if c.nonOverlapping.getD false then .nonOverlapping else .all }

end Config

end ShapeSearch
