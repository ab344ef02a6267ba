import TaskSearch.Proofs.Calendar.LocalDay
import TaskSearch.Proofs.Date.Offset

set_option autoImplicit false

namespace TaskSearch.Calendar.Zone

end TaskSearch.Calendar.Zone

namespace TaskSearch.Date

open Calendar

namespace Clock

end Clock

end TaskSearch.Date
