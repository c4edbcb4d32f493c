/-! Powers of whole numbers. They are the ones that compute, also where a library has powers of
its own. -/

namespace RangeSort

attribute [scoped instance (high)] instPowNat

attribute [default_instance (high + 1)] instPowNat

end RangeSort
