import ProseLinter.Text.Class
import ProseLinter.Value.Basic

/-!
# Value/Method — the methods that values have

Every value has some methods, and each kind of value has more of its own.  Only their names matter
here: an extension that exports a plain value is called through a method if it is asked for one.
-/

namespace ProseLinter.Value

/-- The method that makes a key of a value. -/
def hashMethod : String := "__hash__"

/-- The attribute that holds the class of a value. -/
def classAttribute : String := "__class__"

/-- The methods that every value has, apart from that which makes a key of it. -/
def commonMethods : List String :=
  Text.wordsOf
    [ "__delattr__ __dir__ __eq__ __format__ __ge__ __getattribute__ __getstate__ __gt__",
      "__init__ __init_subclass__ __le__ __lt__ __ne__ __new__ __reduce__ __reduce_ex__",
      "__repr__ __setattr__ __sizeof__ __str__ __subclasshook__" ]

def numberMethods : List String :=
  Text.wordsOf
    [ "__abs__ __add__ __bool__ __ceil__ __divmod__ __float__ __floor__ __floordiv__",
      "__getnewargs__ __int__ __mod__ __mul__ __neg__ __pos__ __pow__ __radd__ __rdivmod__",
      "__rfloordiv__ __rmod__ __rmul__ __round__ __rpow__ __rsub__ __rtruediv__ __sub__",
      "__truediv__ __trunc__ as_integer_ratio conjugate" ]

/-- The methods of integers that other numbers lack. -/
def integerMethods : List String :=
  Text.wordsOf
    [ "__and__ __index__ __invert__ __lshift__ __or__ __rand__ __rlshift__ __ror__ __rrshift__",
      "__rshift__ __rxor__ __xor__ bit_count bit_length from_bytes to_bytes" ]

/-- The methods of floating point numbers that integers lack. -/
def floatMethods : List String := Text.wordsOf ["__getformat__ fromhex hex is_integer"]

/-- The methods of texts, lists and tuples alike. -/
def sequenceMethods : List String :=
  Text.wordsOf ["__add__ __contains__ __getitem__ __iter__ __len__ __mul__ __rmul__ count index"]

/-- The methods of texts that other sequences lack. -/
def textMethods : List String :=
  Text.wordsOf
    [ "__getnewargs__ __mod__ __rmod__ capitalize casefold center encode endswith expandtabs",
      "find format format_map isalnum isalpha isascii isdecimal isdigit isidentifier islower",
      "isnumeric isprintable isspace istitle isupper join ljust lower lstrip maketrans",
      "partition removeprefix removesuffix replace rfind rindex rjust rpartition rsplit rstrip",
      "split splitlines startswith strip swapcase title translate upper zfill" ]

/-- The methods of lists that other sequences lack. -/
def listMethods : List String :=
  Text.wordsOf
    [ "__class_getitem__ __delitem__ __iadd__ __imul__ __reversed__ __setitem__ append clear",
      "copy extend insert pop remove reverse sort" ]

/-- The methods of tuples that other sequences lack. -/
def tupleMethods : List String := Text.wordsOf ["__class_getitem__ __getnewargs__"]

def tableMethods : List String :=
  Text.wordsOf
    [ "__class_getitem__ __contains__ __delitem__ __getitem__ __ior__ __iter__ __len__ __or__",
      "__reversed__ __ror__ __setitem__ clear copy fromkeys get items keys pop popitem",
      "setdefault update values" ]

/-- The methods of classes for their own sake. -/
def classMethods : List String :=
  Text.wordsOf
    [ "__call__ __instancecheck__ __or__ __prepare__ __ror__ __subclasscheck__ __subclasses__",
      "mro" ]

/-- The methods of one kind of value. -/
def ownMethods : Value → List String
  | none => ["__bool__"]
  | bool _ => numberMethods ++ integerMethods
  | int _ => numberMethods ++ integerMethods
  | float _ => numberMethods ++ floatMethods
  | text _ => sequenceMethods ++ textMethods
  | list _ => sequenceMethods ++ listMethods
  | tuple _ => sequenceMethods ++ tupleMethods
  | table _ => tableMethods
  | node _ => ["__setstate__"]
  | finding _ => ["__setstate__"]
  | edit _ => ["__post_init__", "__setstate__", "to_dict"]
  | _ => []

/-- Whether a value may be a key; lists and tables may not. -/
def isHashable : Value → Bool
  | list _ => false
  | table _ => false
  | _ => true

/-- **The methods of a value.** -/
def methods (v : Value) : List String :=
  commonMethods ++ v.ownMethods ++ (if v.isHashable then [hashMethod] else [])

end ProseLinter.Value
