namespace BundleLens

/-- How a bundle hands over its modules: a classic bundle calls a bootstrap function with them, a
chunk pushes them to a loader. -/
inductive BundleFormat where
  | classic
  | chunk
  deriving DecidableEq, Inhabited

namespace BundleFormat

def name : BundleFormat → String
  | .classic => "webpack"
  | .chunk => "webpack-jsonp"

def ofName? (text : String) : Option BundleFormat :=
  if text = "webpack" then some .classic
  else if text = "webpack-jsonp" then some .chunk
  else none

def other : BundleFormat → BundleFormat
  | .classic => .chunk
  | .chunk => .classic

end BundleFormat

/-- Where the entry of a bundle came from: the user gave it, the bundle names it, or there is none. -/
inductive EntrySource where
  | override
  | resolved
  | unresolved
  deriving DecidableEq, Inhabited

namespace EntrySource

def name : EntrySource → String
  | .override => "override"
  | .resolved => "resolved"
  | .unresolved => "unresolved"

def ofName? (text : String) : Option EntrySource :=
  if text = "override" then some .override
  else if text = "resolved" then some .resolved
  else if text = "unresolved" then some .unresolved
  else none

end EntrySource

end BundleLens
